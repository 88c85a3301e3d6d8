import ConfigSchema.Pattern.CharSet

/-! The names by which patterns call properties of characters. Case, blanks, hyphens, underscores and a
leading `is` do not matter. -/

namespace ConfigSchema.Pattern.Property

/-- The name with all that does not matter taken away; characters beyond 127 go too. -/
def normalized (name : String) : String :=
  let lowered := name.toList.map Char.toLower
  let tail := match lowered with
    | 'i' :: 's' :: rest => (true, rest)
    | _ => (false, lowered)
  let kept := tail.2.filter fun c => c.toNat < 128 && c != ' ' && c != '_' && c != '-'
  if tail.1 && kept == ['c'] then "isc" else String.ofList kept

def categoryNames : List (List String × List String) := [
  (["lu", "uppercaseletter"], ["Lu"]), (["ll", "lowercaseletter"], ["Ll"]),
  (["lt", "titlecaseletter"], ["Lt"]), (["lc", "casedletter"], ["Lu", "Ll", "Lt"]),
  (["lm", "modifierletter"], ["Lm"]), (["lo", "otherletter"], ["Lo"]),
  (["l", "letter"], ["Lu", "Ll", "Lt", "Lm", "Lo"]),
  (["mn", "nonspacingmark"], ["Mn"]), (["mc", "spacingmark"], ["Mc"]),
  (["me", "enclosingmark"], ["Me"]), (["m", "mark", "combiningmark"], ["Mn", "Mc", "Me"]),
  (["nd", "decimalnumber", "digit"], ["Nd"]), (["nl", "letternumber"], ["Nl"]),
  (["no", "othernumber"], ["No"]), (["n", "number"], ["Nd", "Nl", "No"]),
  (["pc", "connectorpunctuation"], ["Pc"]), (["pd", "dashpunctuation"], ["Pd"]),
  (["ps", "openpunctuation"], ["Ps"]), (["pe", "closepunctuation"], ["Pe"]),
  (["pi", "initialpunctuation"], ["Pi"]), (["pf", "finalpunctuation"], ["Pf"]),
  (["po", "otherpunctuation"], ["Po"]),
  (["p", "punctuation", "punct"], ["Pc", "Pd", "Ps", "Pe", "Pi", "Pf", "Po"]),
  (["sm", "mathsymbol"], ["Sm"]), (["sc", "currencysymbol"], ["Sc"]),
  (["sk", "modifiersymbol"], ["Sk"]), (["so", "othersymbol"], ["So"]),
  (["s", "symbol"], ["Sm", "Sc", "Sk", "So"]),
  (["zs", "spaceseparator"], ["Zs"]), (["zl", "lineseparator"], ["Zl"]),
  (["zp", "paragraphseparator"], ["Zp"]), (["z", "separator"], ["Zs", "Zl", "Zp"]),
  (["cc", "control", "cntrl"], ["Cc"]), (["cf", "format"], ["Cf"]),
  (["co", "privateuse"], ["Co"]), (["cn", "unassigned"], ["Cn"]),
  (["c", "other"], ["Cc", "Cf", "Co", "Cn"])]

def category? (name : String) : Option CharSet :=
  match name with
  | "any" => some .any
  | "ascii" => some (.range '\x00' '\x7f')
  | "assigned" => some (.complement (.property (.categories ["Cn"])))
  | _ => (categoryNames.find? fun entry => entry.1.contains name).map fun entry =>
      .property (.categories entry.2)

def script? (name : String) : Option CharSet :=
  let long := match Text.scriptAliases.find? (fun entry => normalized entry.1 == name) with
    | some (_, long) => some long
    | none => Text.scriptNames.find? (fun long => normalized long == name)
  long.map fun long => .property (.script long)

def plain? (name : String) : Option CharSet :=
  match name with
  | "alphabetic" | "alpha" => some (.property .alphabetic)
  | "uppercase" | "upper" => some (.property .uppercase)
  | "lowercase" | "lower" => some (.property .lowercase)
  | "cased" => some (.unions [.property .uppercase, .property .lowercase, .property (.categories ["Lt"])])
  | "whitespace" | "wspace" | "space" => some (.property .blank)
  | "emoji" => some (.property .emoji)
  | "ideographic" | "ideo" => some (.property .ideographic)
  | "math" => some (.property .math)
  | "dash" => some (.property .dash)
  | "hexdigit" | "hex" => some (.property .hexDigit)
  | "asciihexdigit" | "ahex" => some (.ofRanges [('0', '9'), ('A', 'F'), ('a', 'f')])
  | "joincontrol" | "joinc" => some (.range '\u200c' '\u200d')
  | _ => none

def ofName? (name : String) : Option CharSet :=
  let name := normalized name
  ((plain? name).or (category? name)).or (script? name)

def ofNameValue? (name value : String) : Option CharSet :=
  match normalized name with
  | "generalcategory" | "gc" => category? (normalized value)
  | "script" | "sc" | "scriptextensions" | "scx" => script? (normalized value)
  | _ => none

end ConfigSchema.Pattern.Property
