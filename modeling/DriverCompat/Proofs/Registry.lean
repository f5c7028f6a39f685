import DriverCompat.Proofs.Console.Attempts
import DriverCompat.Registry
import Mathlib.Data.List.Induction

/-! # The views of a registry

Drivers are registered one after another, and a name leads to the driver that was registered last
under it. All views agree on that: a name is found exactly if it is listed, each name is listed
once, and one line is printed for each name in the same order. A device that fails in between holds
the front of these lines.
-/

namespace DriverCompat.Registry

open Console (Attempt Sink)

variable {σ κ τ : Type}

/-- The registry in which drivers were registered one after another. -/
def registerAll (backends : List (Backend σ κ)) : Registry σ κ := backends.foldl register empty

theorem registerAll_concat (backends : List (Backend σ κ)) (last : Backend σ κ) :
    registerAll (backends ++ [last]) = (registerAll backends).register last :=
  List.foldl_concat ..

/-- The last one of the drivers with a name. -/
def RegisteredLast (backends : List (Backend σ κ)) (name : String) (backend : Backend σ κ) : Prop :=
  ∃ before behind, backends = before ++ backend :: behind ∧ backend.driver.name = name ∧
    ∀ later ∈ behind, later.driver.name ≠ name

theorem registeredLast_concat (backends : List (Backend σ κ)) (last : Backend σ κ) (name : String)
    (backend : Backend σ κ) :
    RegisteredLast (backends ++ [last]) name backend ↔
      if name = last.driver.name then last = backend else RegisteredLast backends name backend := by
  split
  next same =>
    constructor
    · rintro ⟨before, behind, split, -, others⟩
      rcases List.eq_nil_or_concat behind with rfl | ⟨behind, final, rfl⟩
      · exact List.singleton_inj.mp (List.append_inj' split rfl).2
      · rw [List.concat_eq_append, ← List.cons_append, ← List.append_assoc] at split
        obtain rfl := List.singleton_inj.mp (List.append_inj' split rfl).2
        exact absurd same.symm (others last (by simp))
    · rintro rfl
      exact ⟨backends, [], rfl, same.symm, nofun⟩
  next differs =>
    constructor
    · rintro ⟨before, behind, split, named, others⟩
      rcases List.eq_nil_or_concat behind with rfl | ⟨behind, final, rfl⟩
      · obtain rfl := List.singleton_inj.mp (List.append_inj' split rfl).2
        exact absurd named.symm differs
      · rw [List.concat_eq_append, ← List.cons_append, ← List.append_assoc] at split
        refine ⟨before, behind, (List.append_inj' split rfl).1, named, fun later among => ?_⟩
        exact others later (by simp [among])
    · rintro ⟨before, behind, rfl, named, others⟩
      refine ⟨before, behind ++ [last], by rw [List.append_assoc, List.cons_append], named, ?_⟩
      intro later among
      rcases List.mem_append.mp among with among | among
      · exact others later among
      · rw [List.mem_singleton.mp among]
        exact Ne.symm differs

theorem get?_register (registry : Registry σ κ) (backend : Backend σ κ) (name : String) :
    (registry.register backend).get? name =
      if name = backend.driver.name then some backend else registry.get? name :=
  registry.drivers.get?_set ..

/-- By induction on the registrations, of which the last one is taken off. -/
theorem get?_registerAll (backends : List (Backend σ κ)) (name : String) (backend : Backend σ κ) :
    (registerAll backends).get? name = some backend ↔ RegisteredLast backends name backend := by
  induction backends using List.reverseRecOn with
  | nil =>
    refine iff_of_false nofun ?_
    rintro ⟨before, behind, split, -⟩
    simp at split
  | append_singleton backends last ih =>
    rw [registerAll_concat, get?_register, registeredLast_concat]
    split
    · exact Option.some_inj
    · exact ih

theorem mem_list (registry : Registry σ κ) (name : String) :
    name ∈ registry.list ↔ (registry.get? name).isSome :=
  registry.drivers.mem_names name

theorem mem_list_registerAll (backends : List (Backend σ κ)) (name : String) :
    name ∈ (registerAll backends).list ↔ ∃ backend ∈ backends, backend.driver.name = name := by
  induction backends using List.reverseRecOn with
  | nil => exact iff_of_false nofun nofun
  | append_singleton backends last ih =>
    rw [registerAll_concat, mem_list, get?_register]
    split
    next same => exact iff_of_true rfl ⟨last, by simp, same.symm⟩
    next differs =>
      rw [← mem_list, ih]
      simp only [List.mem_append, List.mem_singleton, or_and_right, exists_or, exists_eq_left]
      exact (or_iff_left (Ne.symm differs)).symm

/-- Keys in any order are sorted into the list, if they are the names that are registered. -/
theorem mergeSort_eq_list {registry : Registry σ κ} {keys : List String} (distinct : keys.Nodup)
    (same : ∀ name, name ∈ keys ↔ name ∈ registry.list) :
    keys.mergeSort (fun a b => !(b < a)) = registry.list := by
  have total (a b : String) : (!decide (b < a)) = true ↔ a ≤ b := by
    rw [Bool.not_eq_true', decide_eq_false_iff_not, String.not_lt]
  have perm : (keys.mergeSort fun a b => !(b < a)).Perm registry.list :=
    (List.mergeSort_perm ..).trans
      ((List.perm_ext_iff_of_nodup distinct registry.drivers.names_nodup).mpr same)
  refine perm.eq_of_pairwise ?_ (List.pairwise_mergeSort ?_ ?_ keys)
    (registry.drivers.names_ordered.imp fun less => ?_)
  · intro a b _ _ upward downward
    exact String.le_antisymm ((total a b).mp upward) ((total b a).mp downward)
  · intro a b c first second
    exact (total a c).mpr (String.le_trans ((total a b).mp first) ((total b c).mp second))
  · intro a b
    rw [Bool.or_eq_true, total, total]
    exact String.le_total a b
  · exact (total _ _).mpr (String.not_lt.mp (String.lt_asymm less))

/-- Every driver stands under its own name. -/
def Consistent (registry : Registry σ κ) : Prop :=
  ∀ entry ∈ registry.drivers.entries, entry.1 = entry.2.driver.name

theorem Consistent.register {registry : Registry σ κ} (consistent : registry.Consistent)
    (backend : Backend σ κ) : (registry.register backend).Consistent := by
  intro entry member
  rcases Named.mem_place member with rfl | old
  · rfl
  · exact consistent entry old

theorem consistent_registerAll (backends : List (Backend σ κ)) :
    (registerAll backends).Consistent := by
  induction backends using List.reverseRecOn with
  | nil => exact nofun
  | append_singleton backends last ih =>
    rw [registerAll_concat]
    exact ih.register last

/-- By induction on the entries: what a device has taken is the front of their lines, and all of
them exactly if it has not failed. -/
theorem printEntries_recorded {sink : Sink τ} (honest : sink.Honest)
    (size : List UInt8 → τ × List Attempt → Nat) (entries : List (String × Backend σ κ))
    (state : τ × List Attempt) :
    ∃ answer after attempts rest,
      printEntries (sink.recorded.fragmented size) entries state =
        (answer, (after, state.2 ++ attempts)) ∧
      Attempt.EndIn (Sink.faultOf answer) attempts ∧
      Text.encode (entries.flatMap fun entry => (listing entry.1 entry.2).toList) =
        attempts.flatMap Attempt.taken ++ rest ∧ (answer = .ok () ↔ rest = []) := by
  induction entries generalizing state with
  | nil =>
    refine ⟨.ok (), state.1, [], [], by rw [printEntries, List.append_nil], ?_, rfl,
      iff_of_true rfl rfl⟩
    exact List.forall_mem_nil _
  | cons entry entries ih =>
    obtain ⟨name, backend⟩ := entry
    obtain ⟨answer, after, attempts, rest, wrote, ends, front, whole⟩ :=
      Sink.write_recorded honest size (Text.encode (listing name backend).toList) state
    rw [List.flatMap_cons, Text.encode_append, printEntries, Sink.writeText, wrote, front]
    rcases answer with fault | _
    · refine ⟨_, after, attempts, _, rfl, ends, List.append_assoc .., ?_⟩
      constructor
      · rintro ⟨⟩
      · intro nothing
        cases whole.mpr (List.append_eq_nil_iff.mp nothing).1
    · obtain rfl := whole.mp rfl
      obtain ⟨answer, after, further, rest, printed, further_ends, behind, whole⟩ :=
        ih (after, state.2 ++ attempts)
      refine ⟨answer, after, attempts ++ further, rest, ?_, ends.append further_ends, ?_, whole⟩
      · exact printed.trans (by rw [List.append_assoc])
      · rw [behind, List.append_nil, List.flatMap_append, List.append_assoc]

/-- What can be asked about the drivers that were registered one after another. Which names there
are does not depend on an order that keys have elsewhere, and a name that is not there fails with
all of them. The lines are printed to a device that is offered fragments of any size. -/
theorem registerAll_views (backends : List (Backend σ κ)) {sink : Sink τ} (honest : sink.Honest)
    (size : List UInt8 → τ × List Attempt → Nat) (start : τ) :
    let registry := registerAll backends
    let Registered name := ∃ backend ∈ backends, backend.driver.name = name
    registry.list.Pairwise (· < ·) ∧ (∀ name, name ∈ registry.list ↔ Registered name) ∧
    (∀ keys : List String, keys.Nodup → (∀ name, name ∈ keys ↔ Registered name) →
      keys.mergeSort (fun a b => !(b < a)) = registry.list) ∧
    (∀ name backend, registry.get? name = some backend ↔ RegisteredLast backends name backend) ∧
    (∀ name, name ∈ registry.list → registry.has name = true ∧
      ∃ backend, registry.get? name = some backend ∧ registry.resolve name = .ok backend) ∧
    (∀ name, name ∉ registry.list → registry.has name = false ∧ registry.get? name = none ∧
      ∃ known, registry.resolve name =
          .error (.configuration s!"unknown driver '{name}' (registered: {known})") ∧
        (registry.list = [] → known = "none") ∧
        (registry.list ≠ [] → known = ", ".intercalate registry.list)) ∧
    ∃ shown : List (Backend σ κ), shown.map (·.driver.name) = registry.list ∧
      (∀ backend ∈ shown, registry.get? backend.driver.name = some backend) ∧
      ∃ answer after attempts rest,
        registry.print (sink.recorded.fragmented size) (start, []) = (answer, (after, attempts)) ∧
        Attempt.EndIn (Sink.faultOf answer) attempts ∧
        Text.encode (Console.textOf (shown.map fun backend =>
            s!"{backend.driver.name}\t{backend.driver.displayName}")) =
          attempts.flatMap Attempt.taken ++ rest ∧ (answer = .ok () ↔ rest = []) := by
  intro registry Registered
  have listed (name : String) : name ∈ registry.list ↔ Registered name :=
    mem_list_registerAll backends name
  refine ⟨registry.drivers.names_ordered, listed, ?_, get?_registerAll backends, ?_, ?_, ?_⟩
  · intro keys distinct same
    exact mergeSort_eq_list distinct fun name => (same name).trans (listed name).symm
  · intro name member
    obtain ⟨backend, found⟩ := Option.isSome_iff_exists.mp ((registry.mem_list name).mp member)
    exact ⟨by rw [has, found, Option.isSome_some], backend, found, by rw [resolve, found]⟩
  · intro name missing
    have absent : registry.get? name = none := by
      rwa [mem_list, Option.not_isSome_iff_eq_none] at missing
    refine ⟨by rw [has, absent, Option.isSome_none], absent, _, by rw [resolve, absent]; rfl, ?_,
      ?_⟩
    · intro nothing
      rw [nothing, List.isEmpty_nil, if_pos rfl]
    · intro something
      rw [if_neg (mt List.isEmpty_iff.mp something)]
  · have own := consistent_registerAll backends
    refine ⟨registry.drivers.entries.map Prod.snd, ?_, ?_, ?_⟩
    · rw [List.map_map]
      exact List.map_congr_left fun entry member => (own entry member).symm
    · intro backend member
      obtain ⟨entry, among, rfl⟩ := List.mem_map.mp member
      rw [← own entry among]
      exact registry.drivers.get?_of_mem among
    · obtain ⟨answer, after, attempts, rest, printed, ends, front, whole⟩ :=
        printEntries_recorded honest size registry.drivers.entries (start, [])
      refine ⟨answer, after, attempts, rest, printed, ends, ?_, whole⟩
      rw [← front, Console.textOf, List.map_map, List.flatMap_map]
      refine congrArg Text.encode (List.flatMap_congr fun entry among => ?_)
      simp only [Function.comp_apply, ← own entry among, listing, String.toList_append]
      rfl

/-- A driver that never answers. -/
def silent (name displayName : String) : Backend Unit Unit where
  driver := ⟨name, displayName, fun _ state => ⟨state, none⟩, fun _ _ state => ⟨state, none⟩⟩
  start := ()

/-- Of two drivers with one name the later one stays, and the device is full in the second line. -/
theorem registerAll_views_replaced :
    let backends := [silent "postgres" "PostgreSQL", silent "memory" "Old", silent "memory" "New"]
    let sink := (Console.Limits.mk (some 15) .fails false).sink
    sink.Honest ∧ (registerAll backends).list = ["memory", "postgres"] ∧
      (registerAll backends).get? "memory" = some (silent "memory" "New") ∧
      (registerAll backends).resolve "mongodb" = .error (.configuration
        "unknown driver 'mongodb' (registered: memory, postgres)") ∧
      ∃ attempts offers failed,
        (registerAll backends).print (sink.recorded.fragmented fun _ _ => 2) ([], []) =
          (.error (.brokenPipe "closed"), (Text.encode "memory\tNew\npost".toList, attempts)) ∧
        attempts = offers ++ [failed] ∧ failed.Fails (.brokenPipe "closed") ∧
        attempts.flatMap Attempt.taken = Text.encode "memory\tNew\npost".toList := by
  intro backends sink
  have honest : sink.Honest := Console.Limits.honest _
  obtain ⟨-, -, -, found, -, missing, -, -, -, answer, after, attempts, rest, printed, ends, -⟩ :=
    registerAll_views backends honest (fun _ _ => 2) []
  have list : (registerAll backends).list = ["memory", "postgres"] := by decide +kernel
  obtain ⟨-, -, known, unknown, -, names⟩ := missing "mongodb" (by rw [list]; decide)
  have latest : RegisteredLast backends "memory" (silent "memory" "New") :=
    ⟨[silent "postgres" "PostgreSQL", silent "memory" "Old"], [], rfl, rfl,
      List.forall_mem_nil _⟩
  have answered : ((registerAll backends).print (sink.recorded.fragmented fun _ _ => 2)
      ([], [])).1 = .error (.brokenPipe "closed") := by decide +kernel
  have held : ((registerAll backends).print (sink.recorded.fragmented fun _ _ => 2)
      ([], [])).2.1 = Text.encode "memory\tNew\npost".toList := by decide +kernel
  have taken : ((registerAll backends).print (sink.recorded.fragmented fun _ _ => 2)
      ([], [])).2.2.flatMap Attempt.taken = Text.encode "memory\tNew\npost".toList := by
    decide +kernel
  rw [printed] at answered held taken
  obtain rfl : answer = .error (.brokenPipe "closed") := answered
  obtain rfl : after = Text.encode "memory\tNew\npost".toList := held
  obtain ⟨offers, failed, split, -, fails⟩ := ends
  refine ⟨honest, list, (found ..).mpr latest, ?_, attempts, offers, failed, printed, split, fails,
    taken⟩
  rw [unknown, names (by rw [list]; exact List.cons_ne_nil _ _), list, Except.error.injEq,
    Failure.configuration.injEq]
  decide +kernel

end DriverCompat.Registry
