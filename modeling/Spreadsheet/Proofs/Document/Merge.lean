import Spreadsheet.Proofs.Json.Restored

/-
  Entries put into others.

  A map into which entries are put has under each name what
  was put there last, or else what it had.  Its names keep
  their order, new ones come behind them in the order in
  which they are given, and no name comes twice.

  Main results:
    * `Spreadsheet.Entries.get?_put`
    * `Spreadsheet.Entries.get?_merge`
    * `Spreadsheet.Entries.names_merge`
    * `Spreadsheet.Entries.nodup_names_ofList`
-/

------------------------------------------------------------
-- One Entry
------------------------------------------------------------

namespace Spreadsheet

namespace Entries

variable {ν : Type}
variable [DecidableEq ν]

theorem get?_cons
    (entry : ν × Document ν)
    (rest : Entries ν)
    (name : ν) :
    get? (entry :: rest) name =
      if name = entry.1 then some entry.2 else rest.get? name := by
  rw [get?, List.lookup_cons, get?]
  by_cases hSame : name = entry.1
  · simp [hSame]
  · simp [hSame, beq_eq_false_iff_ne.mpr hSame]

/- There is nothing under a name that no entry has. -/
theorem get?_of_not_mem
    {entries : Entries ν}
    {name : ν}
    (hNone : name ∉ entries.names) :
    entries.get? name = none := by
  induction entries with
  | nil => rfl
  | cons entry rest ih =>
      rw [names_cons, List.mem_cons, not_or] at hNone
      rw [get?_cons, if_neg hNone.1, ih hNone.2]

theorem get?_put
    (entries : Entries ν)
    (name : ν)
    (document : Document ν)
    (other : ν) :
    (entries.put name document).get? other =
      if other = name then some document
      else entries.get? other := by
  induction entries with
  | nil => exact get?_cons _ _ _
  | cons entry rest ih =>
      rcases entry with ⟨first, old⟩
      rw [put]
      by_cases hFirst : first = name
      · rw [if_pos hFirst, get?_cons, get?_cons, hFirst]
        split
        · rfl
        · rfl
      · rw [if_neg hFirst, get?_cons, ih, get?_cons]
        by_cases hOther : other = first
        · rw [if_pos hOther, if_neg (hOther ▸ hFirst),
            if_pos hOther]
        · rw [if_neg hOther, if_neg hOther]

theorem names_put
    (entries : Entries ν)
    (name : ν)
    (document : Document ν) :
    (entries.put name document).names =
      if name ∈ entries.names then entries.names
      else entries.names ++ [name] := by
  induction entries with
  | nil => rfl
  | cons entry rest ih =>
      rcases entry with ⟨first, old⟩
      rw [put, names_cons]
      by_cases hFirst : first = name
      · rw [if_pos hFirst, hFirst,
          if_pos List.mem_cons_self, names_cons]
      · rw [if_neg hFirst, names_cons, ih]
        by_cases hMember : name ∈ names rest
        · rw [if_pos hMember,
            if_pos (List.mem_cons_of_mem _ hMember)]
        · have hNone : name ∉ first :: names rest := by
            rw [List.mem_cons, not_or]
            exact ⟨fun hSame => hFirst hSame.symm, hMember⟩
          rw [if_neg hMember, if_neg hNone, List.cons_append]

end Entries

end Spreadsheet

------------------------------------------------------------
-- Many Entries
------------------------------------------------------------

namespace Spreadsheet

namespace Entries

variable {ν : Type}
variable [DecidableEq ν]

theorem merge_cons
    (entries : Entries ν)
    (entry : ν × Document ν)
    (rest : Entries ν) :
    entries.merge (entry :: rest) =
      (entries.put entry.1 entry.2).merge rest :=
  rfl

/- Under each name stands what was given there, if anything. -/
theorem get?_merge
    {given : Entries ν}
    (hNodup : given.names.Nodup)
    (entries : Entries ν)
    (name : ν) :
    (entries.merge given).get? name =
      (given.get? name).or (entries.get? name) := by
  induction given generalizing entries with
  | nil => rfl
  | cons entry rest ih =>
      rw [names_cons, List.nodup_cons] at hNodup
      rw [merge_cons, ih hNodup.2, get?_put, get?_cons]
      by_cases hSame : name = entry.1
      · rw [if_pos hSame, if_pos hSame,
          get?_of_not_mem (hSame ▸ hNodup.1)]
        rfl
      · rw [if_neg hSame, if_neg hSame]

/- New names come behind the others. -/
theorem names_merge
    {given : Entries ν}
    (hNodup : given.names.Nodup)
    (entries : Entries ν) :
    (entries.merge given).names =
      entries.names ++
        given.names.filter (· ∉ entries.names) := by
  induction given generalizing entries with
  | nil => simp [merge, names]
  | cons entry rest ih =>
      rw [names_cons, List.nodup_cons] at hNodup
      rw [merge_cons, ih hNodup.2, names_put, names_cons]
      by_cases hMember : entry.1 ∈ entries.names
      · simp [hMember]
      · have hRest :
            (names rest).filter
                (· ∉ entries.names ++ [entry.1]) =
              (names rest).filter (· ∉ entries.names) := by
          apply List.filter_congr
          intro name hName
          have hOther : name ≠ entry.1 := fun hSame =>
            hNodup.1 (hSame ▸ hName)
          simp [hOther]
        rw [if_neg hMember, hRest, List.filter_cons_of_pos
          (by simpa using hMember), List.append_assoc,
          List.singleton_append]

/- Names stay different when entries are put in. -/
theorem nodup_names_merge
    {entries : Entries ν}
    (hNodup : entries.names.Nodup)
    (given : Entries ν) :
    (entries.merge given).names.Nodup := by
  induction given generalizing entries with
  | nil => exact hNodup
  | cons entry rest ih =>
      apply ih
      rw [names_put]
      split
      case isTrue => exact hNodup
      case isFalse hNew =>
        exact List.nodup_append.mpr
          ⟨hNodup, List.nodup_singleton _, by
            intro name hName other hOther
            rw [List.mem_singleton.mp hOther]
            exact fun hSame => hNew (hSame ▸ hName)⟩

theorem nodup_names_ofList
    (given : Entries ν) :
    (ofList given).names.Nodup := by
  have hNil : (names ([] : Entries ν)).Nodup :=
    List.nodup_nil
  exact nodup_names_merge hNil given

end Entries

end Spreadsheet
