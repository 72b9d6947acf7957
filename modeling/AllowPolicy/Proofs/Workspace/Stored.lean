import AllowPolicy.Workspace

namespace AllowPolicy

@[simp] theorem Database.completed_completed (db : Database) :
    db.completed.completed = db.completed := by
  obtain ⟨rules, overrides, versioned⟩ := db
  cases rules <;> cases overrides <;> rfl

namespace Workspace

/-- The database in a place with all its tables; an empty one where there is none. -/
def stored (workspace : Workspace) (place : Place) : Database :=
  match workspace.at? place with
  | some (.database db) => db.completed
  | _ => Database.completed {}

/-- Nothing that is stored lacks a table. -/
theorem completed_stored (workspace : Workspace) (place : Place) :
    (workspace.stored place).completed = workspace.stored place := by
  unfold stored
  split
  · exact Database.completed_completed _
  · exact Database.completed_completed _

/-- The database that a place holds, or may come to hold. -/
def content? (workspace : Workspace) (place : Place) : Option Database :=
  match workspace.at? place with
  | some .directory => none
  | some (.text content) => if 1 < content.utf8ByteSize then none else some {}
  | some (.database db) => some db
  | none => if let some .directory := workspace.at? place.around then some {} else none

variable {workspace : Workspace} {path : Path} {place : Place} {db : Database}

private theorem throw_bind {α β : Type} (failure : Failure) (next : α → Outcome β) :
    ((throw failure : Outcome α) >>= next) = .error failure := rfl

/-- A path leads to what its place holds, as long as the journal beside it can have a name. -/
theorem toOption_database (hsound : path.names.any (·.toList.contains '\x00') = false)
    (hplace : workspace.databasePlace? (.start path) path.names = some place) :
    (workspace.database path).toOption =
      if (place.headD "" ++ journalEnding).utf8ByteSize > longestName then none
      else (workspace.content? place).map (place, ·) := by
  simp only [database, hsound, Bool.false_eq_true, if_false, hplace, content?, pure_bind]
  by_cases hlong : (place.headD "" ++ journalEnding).utf8ByteSize > longestName
  · simp only [hlong, if_true, throw_bind]
    split
    · rfl
    · split <;> rfl
    · rfl
    · split <;> rfl
  · simp only [hlong, if_false]
    generalize workspace.at? place = entry
    generalize workspace.at? place.around = outer
    cases entry with
    | none =>
      obtain _ | _ | _ | _ := outer <;> rfl
    | some entry =>
      cases entry with
      | directory => rfl
      | text content => by_cases hsize : 1 < content.utf8ByteSize <;> simp only [hsize] <;> rfl
      | database db => rfl

theorem database_eq_ok_iff :
    workspace.database path = .ok (place, db) ↔
      path.names.any (·.toList.contains '\x00') = false ∧
        workspace.databasePlace? (.start path) path.names = some place ∧
        workspace.content? place = some db ∧
        ¬ (place.headD "" ++ journalEnding).utf8ByteSize > longestName := by
  have hoption : workspace.database path = .ok (place, db) ↔
      (workspace.database path).toOption = some (place, db) := by
    cases workspace.database path <;> simp [Except.toOption]
  cases hsound : path.names.any (·.toList.contains '\x00') with
  | true =>
    simp only [database, hsound, if_true, throw_bind]
    simp
  | false =>
    cases hplace : workspace.databasePlace? (.start path) path.names with
    | none =>
      have hfailed : workspace.database path = .error (unopened path) := by
        simp only [database, hsound, hplace]
        rfl
      simp [hfailed]
    | some found =>
      rw [hoption, toOption_database hsound hplace]
      constructor
      · intro hfound
        split at hfound
        · cases hfound
        · rename_i hshort
          obtain ⟨content, hcontent, hsame⟩ := Option.map_eq_some_iff.mp hfound
          cases hsame
          exact ⟨rfl, rfl, hcontent, hshort⟩
      · rintro ⟨-, hsame, hcontent, hshort⟩
        cases hsame
        rw [if_neg hshort, hcontent]
        rfl

/-- What the database of a path holds is what is stored in its place. -/
theorem completed_of_content? (hcontent : workspace.content? place = some db) :
    db.completed = workspace.stored place := by
  unfold content? at hcontent
  unfold stored
  split at hcontent
  · cases hcontent
  · rename_i hat
    split at hcontent
    · cases hcontent
    · cases hcontent
      rw [hat]
  · rename_i hat
    cases hcontent
    rw [hat]
  · rename_i hat
    split at hcontent
    · cases hcontent
      rw [hat]
    · cases hcontent

/-- A database stands in no directory, and not above one. -/
theorem isOuter_of_content? (hcontent : workspace.content? place = some db) :
    place.isOuter = false := by
  cases houter : place.isOuter with
  | false => rfl
  | true =>
    have hat : workspace.at? place = some .directory := by rw [at?, houter]; rfl
    rw [content?, hat] at hcontent
    cases hcontent

section Put

theorem lookup_filter_place (entries : List (Place × Entry)) {other : Place}
    (hother : other ≠ place) :
    (entries.filter (·.1 ≠ place)).lookup other = entries.lookup other := by
  induction entries with
  | nil => rfl
  | cons head rest ih =>
    by_cases hhead : head.1 = place
    · have hskip : (other == head.1) = false := by simpa [hhead] using hother
      rw [List.filter_cons_of_neg (by simpa using hhead), ih, List.lookup_cons, hskip]
    · rw [List.filter_cons_of_pos (by simpa using hhead), List.lookup_cons, List.lookup_cons, ih]

theorem at?_put (workspace : Workspace) (place : Place) (entry : Entry) (other : Place) :
    (workspace.put place entry).at? other =
      if other.isOuter then some .directory
      else if other = place then some entry else workspace.at? other := by
  unfold at? put
  by_cases houter : other.isOuter
  · simp [houter]
  · simp only [houter, Bool.false_eq_true, if_false, List.lookup_cons]
    by_cases hother : other = place
    · simp [hother]
    · rw [if_neg hother, beq_false_of_ne hother, lookup_filter_place _ hother]

theorem at?_put_of_ne (workspace : Workspace) {place other : Place} (hother : other ≠ place)
    (entry : Entry) : (workspace.put place entry).at? other = workspace.at? other := by
  rw [at?_put, if_neg hother]
  by_cases houter : other.isOuter
  · rw [if_pos houter, at?, if_pos houter]
  · rw [if_neg houter]

theorem stored_put (hplace : place.isOuter = false) (db : Database) (other : Place) :
    (workspace.put place (.database db)).stored other =
      if other = place then db.completed else workspace.stored other := by
  by_cases hother : other = place
  · subst hother
    rw [stored, at?_put, hplace]
    simp
  · rw [if_neg hother, stored, at?_put_of_ne workspace hother, stored]

/-- A database in a place is in the way of every name below it. -/
theorem obstacle?_put_self (hplace : place.isOuter = false) (db : Database) (name : String) :
    (workspace.put place (.database db)).obstacle? place name = some .notDirectory := by
  simp [obstacle?, at?_put, hplace]

theorem obstacle?_put_of_ne {other : Place} (hother : other ≠ place) (entry : Entry)
    (name : String) :
    (workspace.put place entry).obstacle? other name = workspace.obstacle? other name := by
  rw [obstacle?, at?_put_of_ne workspace hother, obstacle?]

/-- A path leads nowhere that it did not lead to before the database was put there. -/
theorem databasePlace?_of_put (hplace : place.isOuter = false) (db : Database) {names : List String}
    {start found : Place}
    (hfound : (workspace.put place (.database db)).databasePlace? start names = some found) :
    workspace.databasePlace? start names = some found := by
  induction names generalizing start with
  | nil => exact hfound
  | cons name rest ih =>
    unfold databasePlace? at hfound ⊢
    split at hfound
    · rename_i hup
      rw [if_pos hup]
      exact ih hfound
    · rename_i hdown
      rw [if_neg hdown]
      by_cases hstart : start = place
      · rw [hstart, obstacle?_put_self hplace] at hfound
        cases hfound
      · rw [obstacle?_put_of_ne hstart] at hfound
        split at hfound
        · exact ih hfound
        · exact ih hfound
        · cases hfound

end Put

theorem openStore_eq_ok_iff {store : Store} :
    workspace.openStore path = .ok store ↔
      (path.shown = inMemory ∧ store = .connect {} true) ∨
        (path.shown ≠ inMemory ∧
          ∃ place db, workspace.database path = .ok (place, db) ∧ store = .connect db false) := by
  unfold openStore
  by_cases hmemory : path.shown = inMemory
  · simp [hmemory, eq_comm]
  · cases hfound : workspace.database path with
    | error failure => simp [hmemory, bind, Except.bind]
    | ok found =>
      obtain ⟨place, db⟩ := found
      simp only [hmemory, if_false, false_and, false_or, ne_eq, not_false_eq_true, true_and,
        Except.ok.injEq, Prod.mk.injEq]
      constructor
      · intro hopen
        cases hopen
        exact ⟨place, db, ⟨rfl, rfl⟩, rfl⟩
      · rintro ⟨_, _, ⟨rfl, rfl⟩, rfl⟩
        rfl

/-- Whatever store a command opens later, it finds the same rules and overrides there. -/
structure SameData (before after : Workspace) : Prop where
  stored : ∀ place, after.stored place = before.stored place
  opened : ∀ path store, after.openStore path = .ok store → before.openStore path = .ok store

theorem SameData.refl (workspace : Workspace) : SameData workspace workspace :=
  ⟨fun _ => rfl, fun _ _ hopen => hopen⟩

theorem connect_congr {other : Database} (hsame : db.completed = other.completed)
    (volatile : Bool) : Store.connect db volatile = .connect other volatile := by
  rw [Store.connect, hsame, Store.connect]

/-- A place holds what it held before the database was put elsewhere. -/
theorem content?_of_put (hplace : place.isOuter = false) {content : Database} {other : Place}
    (hother : other ≠ place)
    (hcontent : (workspace.put place (.database db)).content? other = some content) :
    workspace.content? other = some content := by
  unfold content? at hcontent ⊢
  rw [at?_put_of_ne workspace hother] at hcontent
  cases hat : workspace.at? other with
  | some entry =>
    rw [hat] at hcontent
    cases entry <;> exact hcontent
  | none =>
    rw [hat] at hcontent
    by_cases haround : other.around = place
    · have hdatabase : (workspace.put place (.database db)).at? other.around =
          some (.database db) := by simp [at?_put, haround, hplace]
      simp only [hdatabase] at hcontent
      cases hcontent
    · simp only [at?_put_of_ne workspace haround] at hcontent
      exact hcontent

/-- To store the same again changes nothing. -/
theorem sameData_put (hfound : workspace.database path = .ok (place, db)) {kept : Database}
    (hkept : kept.completed = db.completed) :
    SameData workspace (workspace.put place (.database kept)) := by
  obtain ⟨_, _, hcontent, _⟩ := database_eq_ok_iff.mp hfound
  have hplace := isOuter_of_content? hcontent
  constructor
  · intro other
    rw [stored_put hplace]
    by_cases hother : other = place
    · rw [if_pos hother, hkept, hother, completed_of_content? hcontent]
    · rw [if_neg hother]
  · intro other store hopen
    obtain ⟨hmemory, rfl⟩ | ⟨hfile, found, left, hleft, rfl⟩ := openStore_eq_ok_iff.mp hopen
    · exact openStore_eq_ok_iff.mpr (.inl ⟨hmemory, rfl⟩)
    · obtain ⟨hsound, hway, hthere, hshort⟩ := database_eq_ok_iff.mp hleft
      have hback := databasePlace?_of_put hplace kept hway
      by_cases hsame : found = place
      · subst hsame
        have hleft : left = kept := by
          simpa [content?, at?_put, hplace, eq_comm] using hthere
        refine openStore_eq_ok_iff.mpr (.inr ⟨hfile, found, db, ?_, ?_⟩)
        · exact database_eq_ok_iff.mpr ⟨hsound, hback, hcontent, hshort⟩
        · exact connect_congr (by rw [hleft, hkept]) false
      · have hthere := content?_of_put hplace hsame hthere
        refine openStore_eq_ok_iff.mpr (.inr ⟨hfile, found, left, ?_, rfl⟩)
        exact database_eq_ok_iff.mpr ⟨hsound, hback, hthere, hshort⟩

end Workspace

end AllowPolicy
