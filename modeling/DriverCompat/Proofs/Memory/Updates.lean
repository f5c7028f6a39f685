import DriverCompat.Proofs.Json.Equality
import DriverCompat.Proofs.Memory.Contents

/-! # Updates

An update sets the fields of one document, the first one that fits its filter. Fields that the
document has an equal value for are left alone, so that the count which is reported says whether the
document has become a different one. Once an update has been made it changes nothing any more, if
the document still fits its filter.
-/

namespace DriverCompat

open Memory

namespace Document

variable {document : Document} {key : String} {value : Json}

theorem map_fst_insert (document : Document) (key : String) (value : Json) :
    (document.insert key value).map Prod.fst =
      if key ∈ document.map Prod.fst then document.map Prod.fst
      else document.map Prod.fst ++ [key] := by
  induction document with
  | nil => rfl
  | cons member rest ih =>
    obtain ⟨held, old⟩ := member
    unfold insert
    by_cases same : held = key
    · simp [same]
    · simp only [same, if_false, List.map_cons, ih, List.mem_cons, Ne.symm same, false_or]
      split <;> rfl

theorem mem_insert {member : String × Json} (among : member ∈ document.insert key value) :
    member = (key, value) ∨ member ∈ document := by
  induction document with
  | nil => exact .inl (List.mem_singleton.mp among)
  | cons first rest ih =>
    obtain ⟨held, old⟩ := first
    unfold insert at among
    split at among
    · exact (List.mem_cons.mp among).imp id (List.mem_cons_of_mem _)
    · rcases List.mem_cons.mp among with rfl | further
      · exact .inr List.mem_cons_self
      · exact (ih further).imp id (List.mem_cons_of_mem _)

theorem Unambiguous.insert (unambiguous : document.Unambiguous) (inserted : value.Unambiguous) :
    (document.insert key value).Unambiguous := by
  rw [unambiguous_iff] at unambiguous ⊢
  obtain ⟨distinct, values⟩ := unambiguous
  constructor
  · rw [map_fst_insert]
    split
    · exact distinct
    · rename_i absent
      refine List.nodup_append.mpr ⟨distinct, by simp, ?_⟩
      rintro held among _ (_ | ⟨_, ⟨⟩⟩) rfl
      exact absent among
  · intro member among
    rcases mem_insert among with rfl | old
    · exact inserted
    · exact values member old

end Document

namespace Memory

namespace Store

section Fields

variable {document fields : Document}

theorem setFields_cons_of_holds {member : String × Json} (holds : document.Holds member)
    (rest : Document) : setFields document (member :: rest) = setFields document rest := by
  obtain ⟨key, value⟩ := member
  obtain ⟨old, found, same⟩ := holds
  rw [setFields]
  simp only [found, same, if_true]

theorem setFields_cons_of_not_holds {member : String × Json} (differs : ¬ document.Holds member)
    (rest : Document) : setFields document (member :: rest) =
      ((setFields (document.insert member.1 member.2) rest).1, true) := by
  obtain ⟨key, value⟩ := member
  rw [setFields]
  cases found : document.get? key with
  | none => rfl
  | some old =>
    have other : old.same value = false :=
      Bool.eq_false_iff.mpr fun same => differs ⟨old, found, same⟩
    simp only [other, Bool.false_eq_true, if_false]

/-- Under every key there is what was there before, or what is set for it. -/
theorem get?_setFields (document fields : Document) (key : String) :
    (setFields document fields).1.get? key = document.get? key ∨
      ∃ value, (key, value) ∈ fields ∧ (setFields document fields).1.get? key = some value := by
  induction fields generalizing document with
  | nil => exact .inl rfl
  | cons member rest ih =>
    by_cases holds : document.Holds member
    · rw [setFields_cons_of_holds holds]
      exact (ih document).imp id fun ⟨value, among, found⟩ =>
        ⟨value, List.mem_cons_of_mem _ among, found⟩
    · rw [setFields_cons_of_not_holds holds]
      rcases ih (document.insert member.1 member.2) with kept | ⟨value, among, found⟩
      · rw [kept, Document.get?_insert]
        split
        · rename_i same
          exact .inr ⟨member.2, same ▸ List.mem_cons_self, rfl⟩
        · exact .inl rfl
      · exact .inr ⟨value, List.mem_cons_of_mem _ among, found⟩

theorem get?_setFields_of_not_mem {key : String} (other : key ∉ fields.map Prod.fst) :
    (setFields document fields).1.get? key = document.get? key := by
  rcases get?_setFields document fields key with kept | ⟨value, among, -⟩
  · exact kept
  · exact absurd (List.mem_map_of_mem among) other

/-- Keys that are there already stay where they are, and the others follow in the order in which
they are set. -/
theorem map_fst_setFields (document : Document) (distinct : (fields.map Prod.fst).Nodup) :
    (setFields document fields).1.map Prod.fst = document.map Prod.fst ++
      (fields.map Prod.fst).filter (· ∉ document.map Prod.fst) := by
  induction fields generalizing document with
  | nil => simp [setFields]
  | cons member rest ih =>
    obtain ⟨fresh, distinct⟩ := List.nodup_cons.mp distinct
    by_cases holds : document.Holds member
    · obtain ⟨old, found, -⟩ := id holds
      have present : member.1 ∈ document.map Prod.fst :=
        List.mem_map.mpr ⟨_, Document.mem_of_get? found, rfl⟩
      rw [setFields_cons_of_holds holds, ih document distinct, List.map_cons,
        List.filter_cons_of_neg (by simpa using present)]
    · rw [setFields_cons_of_not_holds holds, ih _ distinct, Document.map_fst_insert, List.map_cons]
      by_cases present : member.1 ∈ document.map Prod.fst
      · rw [if_pos present, List.filter_cons_of_neg (by simpa using present)]
      · rw [if_neg present, List.filter_cons_of_pos (by simpa using present), List.append_assoc,
          List.singleton_append]
        congr 2
        refine List.filter_congr fun key among => ?_
        have differs : key ≠ member.1 := fun same => fresh (same ▸ among)
        simp [differs]

/-- Afterwards the document has an equal value for every field. -/
theorem fits_setFields (document : Document) (unambiguous : fields.Unambiguous) :
    (setFields document fields).1.Fits fields := by
  obtain ⟨distinct, values⟩ := Document.unambiguous_iff.mp unambiguous
  clear unambiguous
  induction fields generalizing document with
  | nil => nofun
  | cons member rest ih =>
    obtain ⟨fresh, distinct⟩ := List.nodup_cons.mp distinct
    obtain ⟨value, values⟩ := List.forall_mem_cons.mp values
    by_cases holds : document.Holds member
    · rw [setFields_cons_of_holds holds]
      refine List.forall_mem_cons.mpr ⟨?_, ih document distinct values⟩
      obtain ⟨old, found, same⟩ := holds
      exact ⟨old, (get?_setFields_of_not_mem fresh).trans found, same⟩
    · rw [setFields_cons_of_not_holds holds]
      refine List.forall_mem_cons.mpr ⟨⟨member.2, ?_, Json.same_self _ value⟩, ih _ distinct values⟩
      rw [get?_setFields_of_not_mem fresh, Document.get?_insert, if_pos rfl]

/-- Fields that the document has equal values for are left alone. -/
theorem setFields_of_fits (fits : document.Fits fields) :
    setFields document fields = (document, false) := by
  induction fields with
  | nil => rfl
  | cons member rest ih =>
    obtain ⟨holds, others⟩ := List.forall_mem_cons.mp fits
    rw [setFields_cons_of_holds holds, ih others]

theorem fits_of_setFields_eq_false (unchanged : (setFields document fields).2 = false) :
    document.Fits fields := by
  induction fields with
  | nil => nofun
  | cons member rest ih =>
    by_cases holds : document.Holds member
    · rw [setFields_cons_of_holds holds] at unchanged
      exact List.forall_mem_cons.mpr ⟨holds, ih unchanged⟩
    · rw [setFields_cons_of_not_holds holds] at unchanged
      cases unchanged

/-- A field that the document has no equal value for is set to the very value that is given. -/
theorem get?_setFields_of_not_holds (unambiguous : fields.Unambiguous) {member : String × Json}
    (among : member ∈ fields) (differs : ¬ document.Holds member) :
    (setFields document fields).1.get? member.1 = some member.2 := by
  obtain ⟨distinct, -⟩ := Document.unambiguous_iff.mp unambiguous
  obtain ⟨value, found, same⟩ := fits_setFields document unambiguous member among
  rcases get?_setFields document fields member.1 with kept | ⟨given, listed, placed⟩
  · exact absurd ⟨value, kept.symm.trans found, same⟩ differs
  · cases (Document.get?_of_mem distinct listed).symm.trans (Document.get?_of_mem distinct among)
    exact placed

/-- A document that has no equal value for one of the fields becomes a different document. -/
theorem not_same_setFields (unambiguous : fields.Unambiguous) {member : String × Json}
    (among : member ∈ fields) (differs : ¬ document.Holds member) :
    (Json.object document).same (.object (setFields document fields).1) = false := by
  rw [Bool.eq_false_iff]
  intro same
  rw [Json.same, Bool.and_eq_true, beq_iff_eq, Json.sameMembers_iff] at same
  obtain ⟨length, values⟩ := same
  cases found : document.get? member.1 with
  | none =>
    -- A new key makes the document longer.
    have keys := congrArg List.length
      (map_fst_setFields document (Document.unambiguous_iff.mp unambiguous).1)
    have added : member.1 ∈ (fields.map Prod.fst).filter (· ∉ document.map Prod.fst) := by
      refine List.mem_filter.mpr ⟨List.mem_map_of_mem among, ?_⟩
      simpa using Document.get?_eq_none_iff.mp found
    have longer := List.length_pos_of_mem added
    rw [List.length_append, List.length_map, List.length_map] at keys
    omega
  | some old =>
    obtain ⟨value, held, equal⟩ := values (member.1, old) (Document.mem_of_get? found)
    cases (get?_setFields_of_not_holds unambiguous among differs).symm.trans held
    exact differs ⟨old, found, equal⟩

/-- It is said that the document has changed exactly if it has become a different one. -/
theorem setFields_snd (held : document.Unambiguous) (given : fields.Unambiguous) :
    (setFields document fields).2 =
      !(Json.object document).same (.object (setFields document fields).1) := by
  by_cases fits : document.Fits fields
  · rw [setFields_of_fits fits, Json.same_self _ held]
    rfl
  · have changed : (setFields document fields).2 = true :=
      Bool.of_not_eq_false (mt fits_of_setFields_eq_false fits)
    obtain ⟨member, among, differs⟩ : ∃ member ∈ fields, ¬ document.Holds member := by
      simpa [Document.Fits] using fits
    rw [changed, not_same_setFields given among differs]
    rfl

/-- A document that fits a filter still does after fields were set that agree with the filter. -/
theorem fits_filter_setFields {filter : Document} (fits : document.Fits filter)
    (agree : ∀ key value expected, (key, value) ∈ fields → (key, expected) ∈ filter →
      value.same expected = true) : (setFields document fields).1.Fits filter := by
  rintro ⟨key, expected⟩ among
  rcases get?_setFields document fields key with kept | ⟨value, listed, placed⟩
  · obtain ⟨old, found, same⟩ := fits (key, expected) among
    exact ⟨old, kept.trans found, same⟩
  · exact ⟨value, placed, agree key value expected listed among⟩

theorem unambiguous_setFields (held : document.Unambiguous) (given : fields.Unambiguous) :
    (setFields document fields).1.Unambiguous := by
  obtain ⟨-, values⟩ := Document.unambiguous_iff.mp given
  clear given
  induction fields generalizing document with
  | nil => exact held
  | cons member rest ih =>
    obtain ⟨value, values⟩ := List.forall_mem_cons.mp values
    by_cases holds : document.Holds member
    · rw [setFields_cons_of_holds holds]
      exact ih held values
    · rw [setFields_cons_of_not_holds holds]
      exact ih (held.insert value) values

end Fields

end Store

namespace Session

variable {session : Session} {collection : String} {filter update fields : Document}

/-- No history makes a document ambiguous, if no document or field is that it hands in or sets. -/
theorem unambiguous_follow (database : String) (faults : Faults) {history : List Action}
    (handedIn : ∀ action ∈ history, ∀ given ∈ action.handedIn, given.Unambiguous)
    (sets : ∀ action ∈ history, ∀ fields ∈ action.fields?, fields.Unambiguous) :
    ((open_ database faults).follow history).store.Each Document.Unambiguous := by
  refine each_follow Store.each_empty ?_ ?_
  · intro action among given listed stored storedAs
    have unambiguous := handedIn action among given listed
    cases storedAs with
    | kept present => exact unambiguous
    | identified absent number => exact unambiguous.insert trivial
  · intro action among fields asked document unambiguous
    exact Store.unambiguous_setFields unambiguous (sets action among fields asked)

theorem updateOne_of_nothing (asks : update.get? "$set" = some (.object fields))
    (nothing : session.store.matching collection filter = []) :
    session.updateOne collection filter update = (.ok 0, session) := by
  simp only [updateOne, asks, Store.change_eq_none _ nothing]

theorem updateOne_of_firstFit (asks : update.get? "$set" = some (.object fields))
    {before behind : List Document} {document : Document}
    (first : session.store.FirstFit collection filter before document behind) :
    session.updateOne collection filter update =
      (.ok (if (Store.setFields document fields).2 then 1 else 0),
        session.withStore (session.store.set collection
          (before ++ (Store.setFields document fields).1 :: behind))) := by
  simp only [updateOne, asks, first.change]
  rfl

/-- On a session that nothing impedes, whose documents have each key once, an update changes nothing
if the query for one document finds none. Otherwise it puts a changed document in the place of the
one that is found. This has an equal value for every field, what it had under every other key, and
its keys in their order, with the new ones of the fields at the end in theirs. The count says
whether it is a different document. If the fields agree with the filter, the same call made once
more changes nothing and says so. -/
theorem update_of_first (unimpeded : session.Unimpeded)
    (held : session.store.Each Document.Unambiguous) (collection : String) (filter : Document)
    (asks : update.get? "$set" = some (.object fields)) (given : fields.Unambiguous) :
    ∃ found, session.respond (.findOne collection filter) = .value (.ok found) session ∧
      (found = none → session.respond (.updateOne collection filter update) =
        .value (.ok 0) session) ∧
      ∀ document, found = some document → ∃ before behind changed count after,
        session.documents collection = some (before ++ document :: behind) ∧
        (∀ other ∈ before, ¬ other.Fits filter) ∧ document.Fits filter ∧
        after = session.withStore
          (session.store.set collection (before ++ changed :: behind)) ∧
        session.respond (.updateOne collection filter update) = .value (.ok count) after ∧
        changed.Fits fields ∧
        (∀ key ∉ fields.map Prod.fst, changed.get? key = document.get? key) ∧
        changed.map Prod.fst = document.map Prod.fst ++
          (fields.map Prod.fst).filter (· ∉ document.map Prod.fst) ∧
        count = (if (Json.object document).same (.object changed) then 0 else 1) ∧
        ((∀ key value expected, (key, value) ∈ fields → (key, expected) ∈ filter →
            value.same expected = true) →
          after.respond (.updateOne collection filter update) = .value (.ok 0) after) := by
  refine ⟨_, unimpeded.respond rfl, ?_, ?_⟩
  · intro nothing
    rw [List.head?_eq_none_iff] at nothing
    rw [unimpeded.respond rfl, carryOut, updateOne_of_nothing asks nothing]
    rfl
  · intro document found
    obtain ⟨before, behind, first⟩ := Store.exists_firstFit found
    let changed := (Store.setFields document fields).1
    let after := session.withStore (session.store.set collection (before ++ changed :: behind))
    have unambiguous : document.Unambiguous :=
      held collection _ first.held document (List.mem_append_right before List.mem_cons_self)
    have fits : changed.Fits fields := Store.fits_setFields document given
    refine ⟨before, behind, changed, if (Store.setFields document fields).2 then 1 else 0, after,
      first.held, first.misfits, first.fits, rfl, ?_, fits, ?_, ?_, ?_, ?_⟩
    · rw [unimpeded.respond rfl, carryOut, updateOne_of_firstFit asks first]
      rfl
    · intro key other
      exact Store.get?_setFields_of_not_mem other
    · exact Store.map_fst_setFields document (Document.unambiguous_iff.mp given).1
    · rw [Store.setFields_snd unambiguous given]
      cases (Json.object document).same (.object (Store.setFields document fields).1) <;> rfl
    · intro agree
      -- The changed document is again the first that fits, and all fields are equal by now.
      have again : after.store.FirstFit collection filter before changed behind :=
        ⟨(Store.get?_set _ _ _ _).trans (if_pos rfl), first.misfits,
          Store.fits_filter_setFields first.fits agree⟩
      have still : after.Unimpeded := ⟨unimpeded.opened, unimpeded.operations⟩
      have settled : after.updateOne collection filter update = (.ok 0, after) := by
        rw [updateOne_of_firstFit asks again, Store.setFields_of_fits fits]
        simp only [after, withStore, Store.set_set, Bool.false_eq_true, if_false]
      rw [still.respond rfl, carryOut, settled]
      rfl

/-- The update of the checks changes the first of two documents with the same name, and only
once. -/
theorem update_of_first_twins :
    ∃ after, twins.respond (.updateOne "people" (Check.named "Alice") Check.setAge) =
        .value (.ok 1) after ∧
      after.respond (.updateOne "people" (Check.named "Alice") Check.setAge) =
        .value (.ok 0) after := by
  have unimpeded : twins.Unimpeded := ⟨rfl, Faults.harmless_none.operations⟩
  have people : ∀ given ∈ [Check.bob, Check.alice, Check.alice], given.Unambiguous := by
    simp [Document.Unambiguous, Json.Unambiguous, Json.UnambiguousMembers, Check.alice, Check.bob,
      Check.person, Json.int]
  have held : (follow (.open_ "shop" .none)
      [.seed "people" [Check.bob, Check.alice, Check.alice]]).store.Each Document.Unambiguous :=
    unambiguous_follow "shop" .none (List.forall_mem_singleton.mpr people)
      (List.forall_mem_singleton.mpr fun _ unset => absurd unset (Option.not_mem_none _))
  have asks : Check.setAge.get? "$set" =
      some (.object [("age", Json.int Check.updatedAge (by decide))]) := rfl
  obtain ⟨found, one, -, changes⟩ :=
    update_of_first unimpeded held "people" (Check.named "Alice") asks ⟨by decide, trivial, trivial⟩
  cases one
  obtain ⟨before, behind, changed, count, after, -, -, -, rfl, made, -, -, -, -, again⟩ :=
    changes _ rfl
  have reported : count = 1 := by
    have attempted : (twins.attempt (.updateOne "people" (Check.named "Alice") Check.setAge)).1 =
        some (.returned (.ok count)) := by
      rw [attempt, made]
      rfl
    cases attempted
    rfl
  subst reported
  refine ⟨_, made, again ?_⟩
  intro key value expected set asked
  cases List.mem_singleton.mp set
  have differs : "age" ≠ "name" := by decide
  exact absurd (congrArg Prod.fst (List.mem_singleton.mp asked)) differs

end Session

end Memory

end DriverCompat
