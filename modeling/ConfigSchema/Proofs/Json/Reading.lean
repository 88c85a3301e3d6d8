import ConfigSchema.Json.Reader
import ConfigSchema.Proofs.Entries

/-! What the reader makes of a text. No object of a value that is read names a member twice, however often the text
does: one word of the text keeps all that is open and all that is complete distinct, and so does every run of words. -/

namespace ConfigSchema

namespace Json

theorem distinctItems_iff {items : List Json} : DistinctItems items ↔ ∀ item ∈ items, item.Distinct := by
  induction items with
  | nil => simp [DistinctItems]
  | cons item rest ih => rw [DistinctItems, ih, List.forall_mem_cons]

theorem distinctMembers_iff {members : List (String × Json)} :
    DistinctMembers members ↔ ∀ member ∈ members, member.2.Distinct := by
  induction members with
  | nil => simp [DistinctMembers]
  | cons member rest ih => rw [DistinctMembers, ih, List.forall_mem_cons]

theorem distinct_object_put {members : List (String × Json)} (distinct : (object members).Distinct) (name : String)
    {value : Json} (whole : value.Distinct) : (object (Keyed.put name value members)).Distinct := by
  refine ⟨?_, distinctMembers_iff.mpr fun member listed => ?_⟩
  · rw [Keyed.keys_put]
    split
    · exact distinct.1
    · rename_i fresh
      exact List.nodup_append.mpr ⟨distinct.1, List.nodup_singleton _,
        fun key known other here same => fresh (List.mem_singleton.mp here ▸ same ▸ known)⟩
  · rcases Keyed.mem_put listed with rfl | known
    · exact whole
    · exact distinctMembers_iff.mp distinct.2 member known

/-- Members are smaller than their object. -/
theorem sizeOf_lt_of_find? {members : List (String × Json)} {name : String} {value : Json}
    (found : Keyed.find? name members = some value) : sizeOf value < sizeOf (object members) := by
  have member := List.sizeOf_lt_of_mem (Keyed.mem_of_find? found)
  simp only [Prod.mk.sizeOf_spec, object.sizeOf_spec] at member ⊢
  omega

namespace Reader

def Frame.Distinct : Frame → Prop
  | .item before => ∀ value ∈ before, value.Distinct
  | .member before _ => (object before).Distinct

def State.Distinct : State → Prop
  | .value frames _ => ∀ frame ∈ frames, frame.Distinct
  | .name before frames _ | .colon before _ frames => (object before).Distinct ∧ ∀ frame ∈ frames, frame.Distinct
  | .after complete frames => complete.Distinct ∧ ∀ frame ∈ frames, frame.Distinct

theorem distinct_close? {token : Token} {value : Json} {frames : List Frame} {next : State} (whole : value.Distinct)
    (open_distinct : ∀ frame ∈ frames, frame.Distinct) (closed : close? token value frames = some next) :
    next.Distinct := by
  unfold close? at closed
  split at closed
  · cases closed
  · rename_i before rest
    rw [List.forall_mem_cons] at open_distinct
    have items : (Frame.item (value :: before)).Distinct := List.forall_mem_cons.mpr ⟨whole, open_distinct.1⟩
    split at closed
    · cases closed
      exact List.forall_mem_cons.mpr ⟨items, open_distinct.2⟩
    · cases closed
      exact ⟨distinctItems_iff.mpr fun item listed => items item (List.mem_reverse.mp listed), open_distinct.2⟩
    · cases closed
  · rename_i before name rest
    rw [List.forall_mem_cons] at open_distinct
    have members := distinct_object_put open_distinct.1 name whole
    split at closed
    · cases closed
      exact ⟨members, open_distinct.2⟩
    · cases closed
      exact ⟨members, open_distinct.2⟩
    · cases closed

theorem distinct_step? {limit : Nat} {state next : State} {token : Token} (distinct : state.Distinct)
    (step : step? limit state token = some next) : next.Distinct := by
  cases state with
  | value frames mayClose =>
    have nothing : (object []).Distinct := ⟨List.nodup_nil, trivial⟩
    simp only [step?] at step
    split at step
    · cases step
      exact ⟨trivial, distinct⟩
    · cases step
      exact ⟨trivial, distinct⟩
    · cases step
      exact ⟨trivial, distinct⟩
    · cases step
      exact ⟨trivial, distinct⟩
    · obtain ⟨_, same⟩ := Option.ite_none_right_eq_some.mp step
      cases same
      exact List.forall_mem_cons.mpr ⟨nofun, distinct⟩
    · obtain ⟨_, same⟩ := Option.ite_none_right_eq_some.mp step
      cases same
      exact ⟨nothing, distinct⟩
    · split at step
      · cases step
        exact ⟨trivial, fun frame open_frame => distinct frame (List.mem_cons_of_mem _ open_frame)⟩
      · cases step
    · cases step
  | name before frames mayClose =>
    simp only [step?] at step
    split at step
    · cases step
      exact distinct
    · obtain ⟨_, same⟩ := Option.ite_none_right_eq_some.mp step
      cases same
      exact distinct
    · cases step
  | colon before name frames =>
    obtain ⟨_, same⟩ := Option.ite_none_right_eq_some.mp step
    cases same
    exact List.forall_mem_cons.mpr distinct
  | after value frames => exact distinct_close? distinct.1 distinct.2 step

theorem distinct_run {limit : Nat} {tokens : List Token} {state : State} {value : Json} (distinct : state.Distinct)
    (done : run limit state tokens = some value) : value.Distinct := by
  induction tokens generalizing state with
  | nil =>
    unfold run at done
    split at done
    · cases done
      exact distinct.1
    · cases done
  | cons token rest ih =>
    obtain ⟨next, step, later⟩ := Option.bind_eq_some_iff.mp done
    exact ih (distinct_step? distinct step) later

end Reader

theorem distinct_of_readWithin {limit : Nat} {text : String} {value : Json} (done : readWithin limit text = some value) :
    value.Distinct := by
  obtain ⟨tokens, _, ran⟩ := Option.bind_eq_some_iff.mp done
  have start : (Reader.State.value [] false).Distinct := nofun
  exact Reader.distinct_run start ran

end Json

end ConfigSchema
