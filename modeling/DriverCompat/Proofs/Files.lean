import DriverCompat.CommandLine.Host
import DriverCompat.Proofs.Text.Utf8

/-! # What is written to a file tree

A path leads to the same place after a file was written there, since the way to it goes through
directories alone, and they stay what they are. So the text of a file that was written is read back.
-/

namespace DriverCompat

namespace Files

variable {files : Files} {place other : List String} {content : Content}

theorem lookup_filter_of_ne (differs : other ≠ place) (entries : List (List String × Content)) :
    (entries.filter fun entry => entry.1 != place).lookup other = entries.lookup other := by
  induction entries with
  | nil => rfl
  | cons entry rest ih =>
    obtain ⟨key, held⟩ := entry
    by_cases same : key = place
    · subst same
      rw [List.filter_cons_of_neg (by simp), ih, List.lookup_cons, beq_false_of_ne differs]
    · rw [List.filter_cons_of_pos (by simpa using same), List.lookup_cons, List.lookup_cons, ih]

theorem content?_put_self : (files.put place content).content? place = some content := by
  simp [content?, put]

/-- What leads to something still does so. -/
theorem any_put
    (above : other.isEmpty || files.entries.any fun entry => other.isPrefixOf entry.1) :
    other.isEmpty || (files.put place content).entries.any fun entry =>
      other.isPrefixOf entry.1 := by
  rcases Bool.or_eq_true_iff.mp above with root | below
  · rw [root, Bool.true_or]
  · obtain ⟨entry, member, inside⟩ := List.any_eq_true.mp below
    apply Bool.or_eq_true_iff.mpr
    right
    by_cases same : entry.1 = place
    · exact List.any_eq_true.mpr ⟨(place, content), List.mem_cons_self, same ▸ inside⟩
    · have remains : entry ∈ files.entries.filter fun entry => entry.1 != place :=
        List.mem_filter.mpr ⟨member, by simpa using same⟩
      exact List.any_eq_true.mpr ⟨entry, List.mem_cons_of_mem _ remains, inside⟩

/-- Directories stay directories. -/
theorem content?_put_directory (differs : other ≠ place)
    (directory : files.content? other = some .directory) :
    (files.put place content).content? other = some .directory := by
  have kept : (files.put place content).entries.lookup other = files.entries.lookup other := by
    rw [put, List.lookup_cons, beq_false_of_ne differs]
    exact lookup_filter_of_ne differs files.entries
  unfold content? at directory ⊢
  rw [kept]
  split at directory
  · exact directory
  · split at directory
    · rename_i above
      exact if_pos (any_put above)
    · cases directory

/-- By induction on the names: those on the way lead to directories, so the last one leads to the
same place when a file is put there. -/
theorem follow_put (content : Content) {start names : List String}
    (followed : files.follow start names = .ok place)
    (noDirectory : files.content? place ≠ some .directory) :
    (files.put place content).follow start names = .ok place := by
  induction names generalizing start with
  | nil => exact followed
  | cons name rest ih =>
    unfold follow at followed ⊢
    split at followed
    · cases followed
    · cases followed
    · rename_i directory
      have differs : start ≠ place := by
        rintro rfl
        exact noDirectory directory
      rw [content?_put_directory differs directory]
      simp only
      split at followed
      · rename_i stays
        rw [if_pos stays]
        exact ih followed
      · rename_i moves
        rw [if_neg moves]
        split at followed
        · rename_i up
          rw [if_pos up]
          exact ih followed
        · rename_i down
          rw [if_neg down]
          split at followed
          · cases followed
          · rename_i short
            rw [if_neg short]
            exact ih followed

/-- A path that can be written leads to a place where there is no directory. -/
theorem resolve_of_writable {directory : List String} {path : String}
    (writable : files.writable directory path = .ok place) :
    files.resolve directory path = .ok place ∧ refused? path = none ∧
      files.content? place ≠ some .directory := by
  unfold Files.writable at writable
  split at writable
  · cases writable
  · rename_i taken
    dsimp only at writable
    split at writable
    · cases writable
    · rename_i followed
      split at writable
      · cases writable
      · rename_i isFile
        cases writable
        obtain ⟨named, noDirectory⟩ := not_or.mp isFile
        have whole : ((names path).reverse.dropWhile String.isEmpty).reverse = names path := by
          cases reversed : (names path).reverse with
          | nil => rw [List.dropWhile_nil, ← reversed, List.reverse_reverse]
          | cons last rest =>
            have ends : last ≠ "" := by
              rintro rfl
              rw [List.getLast?_eq_head?_reverse, reversed] at named
              exact named rfl
            rw [List.dropWhile_cons_of_neg (by simpa using ends), ← reversed, List.reverse_reverse]
        rw [whole] at followed
        refine ⟨?_, taken, noDirectory⟩
        rw [resolve, taken]
        exact followed

/-- The text that was written is read back. -/
theorem readText_of_writeText {directory : List String} {path text : String} {after : Files}
    (written : files.writeText directory path text = (.ok (), after)) :
    after.readText directory path = .ok text := by
  unfold writeText at written
  split at written
  · cases written
  · rename_i place writable
    cases written
    obtain ⟨resolved, taken, noDirectory⟩ := resolve_of_writable writable
    rw [resolve, taken] at resolved
    have again := follow_put (.file (Text.encode text.toList)) resolved noDirectory
    unfold readText resolve
    rw [taken]
    simp only [again, content?_put_self, Text.decode?_encode, String.ofList_toList]

end Files

namespace CommandLine

/-- What has been written to a file is read back from it. -/
def Host.Keeps {φ : Type} (host : Host (StateM φ)) : Prop :=
  ∀ path text files after, (host.writeText path text).run files = (.ok (), after) →
    (host.readText path).run after = (.ok text, after)

theorem Host.keeps_ofFiles (directory : List String) : (Host.ofFiles directory).Keeps := by
  intro path text files after written
  exact congrArg (·, after) (Files.readText_of_writeText written)

end CommandLine

end DriverCompat
