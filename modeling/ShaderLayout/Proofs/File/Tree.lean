import ShaderLayout.File.Tree
import ShaderLayout.Proofs.Checks

/-!
Trees that grow. A run makes directories and writes files, and takes nothing
away: what was a directory stays one, and a file stays a file, with another
content at the most. A path that leads somewhere leads there for good.
-/

namespace ShaderLayout

namespace FileName

theorem ofText?_eq_some_iff {text : String} {name : FileName} :
    ofText? text = some name ↔ name.text = text := by
  rw [ofText?]
  constructor
  · intro h
    split at h
    · cases h
      rfl
    · cases h
  · rintro rfl
    exact dif_pos name.valid

/-- A name is no step that stays or goes up. -/
theorem text_ne (name : FileName) : name.text ≠ "." ∧ name.text ≠ ".." := by
  obtain ⟨-, hdot, hdots, -⟩ := of_decide_eq_true name.valid
  exact ⟨hdot, hdots⟩

end FileName

/-- Both are directories, or both are files. -/
def Entry.Alike : Entry → Entry → Prop
  | .file _, .file _ => True
  | .directory, .directory => True
  | _, _ => False

theorem Entry.Alike.refl (entry : Entry) : entry.Alike entry := by
  cases entry <;> trivial

theorem Entry.Alike.trans {first second third : Entry} (h : first.Alike second)
    (h' : second.Alike third) : first.Alike third := by
  cases first <;> cases second <;> cases third <;> trivial

/-- What leads to a file leads to a file with some content. -/
theorem Entry.Alike.exists_file {entry : Entry} {content : ByteArray}
    (h : entry.Alike (.file content)) : ∃ other, entry = .file other := by
  cases entry with
  | file other => exact ⟨other, rfl⟩
  | directory => cases h

theorem Entry.Alike.eq_directory {entry : Entry} (h : entry.Alike .directory) :
    entry = .directory := by
  cases entry with
  | file content => cases h
  | directory => rfl

/-- The location of a place. -/
def Place.location : Place → Location
  | .taken location _ | .free location => location

namespace Tree

/-- A later tree has all that was there. Only files at locations that changed may have another
content. -/
def Grows (tree later : Tree) (changed : Location → Prop) : Prop :=
  ∀ location entry, tree.get? location = some entry →
    ∃ found, later.get? location = some found ∧ found.Alike entry ∧
      (¬changed location → found = entry)

variable {tree later last : Tree} {changed changed' : Location → Prop} {location : Location}

namespace Grows

theorem refl (tree : Tree) (changed : Location → Prop) : tree.Grows tree changed :=
  fun _ entry h => ⟨entry, h, .refl entry, fun _ => rfl⟩

theorem trans (h : tree.Grows later changed) (h' : later.Grows last changed) :
    tree.Grows last changed := by
  intro location entry hentry
  obtain ⟨found, hfound, halike, hsame⟩ := h location entry hentry
  obtain ⟨result, hresult, halike', hsame'⟩ := h' location found hfound
  refine ⟨result, hresult, halike'.trans halike, fun hchanged => ?_⟩
  exact (hsame' hchanged).trans (hsame hchanged)

theorem mono (h : tree.Grows later changed)
    (hchanged : ∀ location, changed location → changed' location) :
    tree.Grows later changed' := by
  intro location entry hentry
  obtain ⟨found, hfound, halike, hsame⟩ := h location entry hentry
  exact ⟨found, hfound, halike, fun hne => hsame (mt (hchanged location) hne)⟩

theorem directory (h : tree.Grows later changed) (hentry : tree.get? location = some .directory) :
    later.get? location = some .directory := by
  obtain ⟨found, hfound, halike, -⟩ := h location _ hentry
  rw [hfound, halike.eq_directory]

theorem file (h : tree.Grows later changed) {content : ByteArray}
    (hentry : tree.get? location = some (.file content)) :
    ∃ other, later.get? location = some (.file other) ∧ (¬changed location → other = content) := by
  obtain ⟨found, hfound, halike, hsame⟩ := h location _ hentry
  obtain ⟨other, rfl⟩ := halike.exists_file
  exact ⟨other, hfound, fun hchanged => Entry.file.inj (hsame hchanged)⟩

end Grows

/-- What is new takes nothing away. -/
theorem grows_insert_of_none (h : tree.get? location = none) (entry : Entry) :
    tree.Grows (tree.insert location entry) changed := by
  intro other found hfound
  have hne : other ≠ location := by
    rintro rfl
    cases h.symm.trans hfound
  exact ⟨found, by rw [get?_insert_of_ne tree entry hne, hfound], .refl found, fun _ => rfl⟩

theorem ne_root_of_get? {content : ByteArray} (h : tree.get? location = some (.file content)) :
    location ≠ [] := by
  rintro rfl
  cases h

/-- A file in place of a file. -/
theorem grows_insert_file {content : ByteArray} (h : tree.get? location = some (.file content))
    (hchanged : changed location) (other : ByteArray) :
    tree.Grows (tree.insert location (.file other)) changed := by
  intro place found hfound
  by_cases hne : place = location
  · subst hne
    cases h.symm.trans hfound
    have hself := get?_insert_self tree (.file other) (ne_root_of_get? h)
    exact ⟨_, hself, trivial, fun hsame => absurd hchanged hsame⟩
  · exact ⟨found, by rw [get?_insert_of_ne tree _ hne, hfound], .refl found, fun _ => rfl⟩

/-- A later tree has no other files: one that is new or has another content is at a location that
changed. -/
def Confined (tree later : Tree) (changed : Location → Prop) : Prop :=
  ∀ location content, later.get? location = some (.file content) → ¬changed location →
    tree.get? location = some (.file content)

namespace Confined

theorem refl (tree : Tree) (changed : Location → Prop) : tree.Confined tree changed :=
  fun _ _ h _ => h

theorem trans (h : tree.Confined later changed) (h' : later.Confined last changed) :
    tree.Confined last changed := fun location content hentry hchanged =>
  h location content (h' location content hentry hchanged) hchanged

theorem mono (h : tree.Confined later changed)
    (hchanged : ∀ location, changed location → changed' location) :
    tree.Confined later changed' := fun location content hentry hne =>
  h location content hentry (mt (hchanged location) hne)

end Confined

theorem confined_insert (tree : Tree) (location : Location) (entry : Entry) :
    tree.Confined (tree.insert location entry) (· = location) := by
  intro other content hentry hne
  rwa [get?_insert_of_ne tree entry hne] at hentry

/-- A directory is no file. -/
theorem confined_insert_directory (tree : Tree) (location : Location) :
    tree.Confined (tree.insert location .directory) changed := by
  intro other content hentry _
  refine tree.confined_insert location .directory other content hentry ?_
  rintro rfl
  by_cases hroot : other = []
  · subst hroot
    cases hentry
  · cases hentry.symm.trans (get?_insert_self tree .directory hroot)

/-! ### Following a path -/

/-- Where steps lead from a directory, one step at a time. -/
inductive Reaches (tree : Tree) : Location → List String → Place → Prop
  | stop (here : Location) : tree.Reaches here [] (.taken here .directory)
  | stay {here : Location} {rest : List String} {place : Place}
      (hrest : tree.Reaches here rest place) : tree.Reaches here ("." :: rest) place
  | up {here : Location} {rest : List String} {place : Place}
      (hrest : tree.Reaches here.dropLast rest place) : tree.Reaches here (".." :: rest) place
  | down {here : Location} {name : FileName} {rest : List String} {place : Place}
      (hentry : tree.get? (here ++ [name]) = some .directory)
      (hrest : tree.Reaches (here ++ [name]) rest place) :
      tree.Reaches here (name.text :: rest) place
  | file {here : Location} {name : FileName} {content : ByteArray}
      (hentry : tree.get? (here ++ [name]) = some (.file content)) :
      tree.Reaches here [name.text] (.taken (here ++ [name]) (.file content))
  | free {here : Location} {name : FileName} (hentry : tree.get? (here ++ [name]) = none) :
      tree.Reaches here [name.text] (.free (here ++ [name]))

variable {here : Location} {steps : List String} {place : Place}

/-- A name leads on through a directory, or it is the last step. -/
theorem follow_name_eq_ok_iff {name : FileName} {rest : List String} :
    tree.follow here (name.text :: rest) = .ok place ↔
      tree.get? (here ++ [name]) = some .directory ∧
          tree.follow (here ++ [name]) rest = .ok place ∨
        (∃ content, tree.get? (here ++ [name]) = some (.file content) ∧ rest = [] ∧
          place = .taken (here ++ [name]) (.file content)) ∨
        tree.get? (here ++ [name]) = none ∧ rest = [] ∧ place = .free (here ++ [name]) := by
  have hname : FileName.ofText? name.text = some name := FileName.ofText?_eq_some_iff.mpr rfl
  rw [follow, if_neg name.text_ne.1, if_neg name.text_ne.2]
  simp only [hname]
  cases hentry : tree.get? (here ++ [name]) with
  | none => cases rest <;> simp [eq_comm]
  | some entry =>
      cases entry with
      | file content => cases rest <;> simp [eq_comm]
      | directory => simp

theorem follow_eq_ok_iff : tree.follow here steps = .ok place ↔ tree.Reaches here steps place := by
  constructor
  · intro h
    induction steps generalizing here with
    | nil =>
        cases h
        exact .stop here
    | cons step rest ih =>
        by_cases hstay : step = "."
        · rw [follow, if_pos hstay] at h
          exact hstay ▸ .stay (ih h)
        by_cases hup : step = ".."
        · rw [follow, if_neg hstay, if_pos hup] at h
          exact hup ▸ .up (ih h)
        cases hname : FileName.ofText? step with
        | none =>
            rw [follow, if_neg hstay, if_neg hup, hname] at h
            cases h
        | some name =>
            cases FileName.ofText?_eq_some_iff.mp hname
            rcases follow_name_eq_ok_iff.mp h with
              ⟨hentry, hrest⟩ | ⟨content, hentry, rfl, rfl⟩ | ⟨hentry, rfl, rfl⟩
            · exact .down hentry (ih hrest)
            · exact .file hentry
            · exact .free hentry
  · intro h
    induction h with
    | stop here => rfl
    | stay _ ih => rw [follow, if_pos rfl, ih]
    | up _ ih => rw [follow, if_neg (by decide), if_pos rfl, ih]
    | down hentry _ ih => exact follow_name_eq_ok_iff.mpr (.inl ⟨hentry, ih⟩)
    | file hentry => exact follow_name_eq_ok_iff.mpr (.inr (.inl ⟨_, hentry, rfl, rfl⟩))
    | free hentry => exact follow_name_eq_ok_iff.mpr (.inr (.inr ⟨hentry, rfl, rfl⟩))

/-- The location at the end of some steps, whatever there is on the way. -/
def endOf (here : Location) : List String → Location
  | [] => here
  | step :: rest =>
    if step = "." then endOf here rest
    else if step = ".." then endOf here.dropLast rest
    else
      match FileName.ofText? step with
      | none => here
      | some name => endOf (here ++ [name]) rest

theorem endOf_name (here : Location) (name : FileName) (rest : List String) :
    endOf here (name.text :: rest) = endOf (here ++ [name]) rest := by
  have hname : FileName.ofText? name.text = some name := FileName.ofText?_eq_some_iff.mpr rfl
  rw [endOf, if_neg name.text_ne.1, if_neg name.text_ne.2]
  simp only [hname]

namespace Reaches

/-- Trees may differ in what is at the end of steps, but not in where that is. -/
theorem location_eq (h : tree.Reaches here steps place) : place.location = endOf here steps := by
  induction h with
  | stop here => rfl
  | stay _ ih => rw [ih, endOf, if_pos rfl]
  | up _ ih => rw [ih, endOf, if_neg (by decide), if_pos rfl]
  | down _ _ ih => rw [ih, endOf_name]
  | file _ | free _ =>
      rw [endOf_name]
      rfl

theorem get?_of_file (h : tree.Reaches here steps place) {content : ByteArray}
    (hplace : place = .taken location (.file content)) :
    tree.get? location = some (.file content) := by
  induction h with
  | stop here => cases hplace
  | stay _ ih => exact ih hplace
  | up _ ih => exact ih hplace
  | down _ _ ih => exact ih hplace
  | file hentry =>
      cases hplace
      exact hentry
  | free hentry => cases hplace

theorem get?_of_free (h : tree.Reaches here steps place) (hplace : place = .free location) :
    tree.get? location = none := by
  induction h with
  | stop here => cases hplace
  | stay _ ih => exact ih hplace
  | up _ ih => exact ih hplace
  | down _ _ ih => exact ih hplace
  | file hentry => cases hplace
  | free hentry =>
      cases hplace
      exact hentry

/-- What is there is there later. -/
theorem of_grows (h : tree.Reaches here steps place) {entry : Entry}
    (hplace : place = .taken location entry) (hgrows : tree.Grows later changed) :
    ∃ found, later.Reaches here steps (.taken location found) ∧ found.Alike entry := by
  induction h with
  | stop here =>
      cases hplace
      exact ⟨.directory, .stop _, trivial⟩
  | stay _ ih =>
      obtain ⟨found, hfound, halike⟩ := ih hplace
      exact ⟨found, .stay hfound, halike⟩
  | up _ ih =>
      obtain ⟨found, hfound, halike⟩ := ih hplace
      exact ⟨found, .up hfound, halike⟩
  | down hentry _ ih =>
      obtain ⟨found, hfound, halike⟩ := ih hplace
      exact ⟨found, .down (hgrows.directory hentry) hfound, halike⟩
  | file hentry =>
      cases hplace
      obtain ⟨other, hother, -⟩ := hgrows.file hentry
      exact ⟨_, .file hother, trivial⟩
  | free hentry => cases hplace

/-- A file that comes to a free place is what the steps lead to then. -/
theorem file_of_free (h : tree.Reaches here steps place) (hplace : place = .free location)
    (hgrows : tree.Grows later changed) {content : ByteArray}
    (hlater : later.get? location = some (.file content)) :
    later.Reaches here steps (.taken location (.file content)) := by
  induction h with
  | stop here => cases hplace
  | stay _ ih => exact .stay (ih hplace)
  | up _ ih => exact .up (ih hplace)
  | down hentry _ ih => exact .down (hgrows.directory hentry) (ih hplace)
  | file hentry => cases hplace
  | free hentry =>
      cases hplace
      exact .file hlater

end Reaches

theorem locate_eq_ok_iff : tree.locate steps = .ok place ↔
    steps.any (·.toList.contains '\x00') = false ∧ tree.Reaches [] steps place := by
  rw [locate, ← follow_eq_ok_iff]
  split
  · next h => exact iff_of_false nofun fun h' => by rw [h] at h'; cases h'.1
  · next h => exact (and_iff_right (Bool.not_eq_true _ ▸ h)).symm

/-! ### Files that paths lead to -/

/-- A path leads to a file at a location. -/
def LeadsTo (tree : Tree) (path : Path) (location : Location) : Prop :=
  path.endsInSlash = false ∧
    ∃ content, tree.locate path.steps = .ok (.taken location (.file content))

/-- The location of the file that a path leads to. -/
def fileAt? (tree : Tree) (path : Path) : Option Location :=
  match tree.locate path.steps with
  | .ok (.taken location (.file _)) => if path.endsInSlash then none else some location
  | _ => none

theorem fileAt?_eq_some_iff {path : Path} :
    tree.fileAt? path = some location ↔ tree.LeadsTo path location := by
  rw [fileAt?, LeadsTo]
  split
  · next found content hlocate =>
      rw [Option.ite_none_left_eq_some, Bool.not_eq_true, hlocate]
      simp
  · next hlocate =>
      refine iff_of_false nofun ?_
      rintro ⟨-, content, hfound⟩
      exact hlocate location content hfound

/-- The location of the directory that a path leads to. -/
def directoryAt? (tree : Tree) (path : Path) : Option Location :=
  match tree.locate path.steps with
  | .ok (.taken location .directory) => if path.text.isEmpty then none else some location
  | _ => none

theorem directoryAt?_eq_some_iff {path : Path} : tree.directoryAt? path = some location ↔
    path.text.isEmpty = false ∧ tree.locate path.steps = .ok (.taken location .directory) := by
  rw [directoryAt?]
  split
  · next found hlocate =>
      rw [Option.ite_none_left_eq_some, Bool.not_eq_true, hlocate]
      simp
  · next hlocate => exact iff_of_false nofun fun h => hlocate location h.2

variable {path : Path} {content : ByteArray}

theorem LeadsTo.get? (h : tree.LeadsTo path location) :
    ∃ content, tree.get? location = some (.file content) ∧ tree.read path = .ok content := by
  obtain ⟨hslash, content, hlocate⟩ := h
  refine ⟨content, (locate_eq_ok_iff.mp hlocate).2.get?_of_file rfl, ?_⟩
  rw [read, hlocate]
  show (if path.endsInSlash = true then _ else _) = _
  rw [hslash]
  rfl

/-- A path leads to the same location in every tree where it leads to a file. -/
theorem LeadsTo.unique {other : Location} (h : tree.LeadsTo path location)
    (h' : later.LeadsTo path other) : location = other := by
  obtain ⟨-, _, hlocate⟩ := h
  obtain ⟨-, _, hlocate'⟩ := h'
  have hlocation := (locate_eq_ok_iff.mp hlocate).2.location_eq
  have hlocation' := (locate_eq_ok_iff.mp hlocate').2.location_eq
  exact hlocation.trans hlocation'.symm

/-- A path of one name leads to the entry of that name in the root. -/
theorem LeadsTo.eq_of_steps {name : FileName} (hsteps : path.steps = [name.text])
    (h : tree.LeadsTo path location) : location = [name] := by
  obtain ⟨-, _, hlocate⟩ := h
  have hlocation := (locate_eq_ok_iff.mp hlocate).2.location_eq
  rw [hsteps, endOf_name] at hlocation
  exact hlocation

theorem LeadsTo.of_grows (h : tree.LeadsTo path location) (hgrows : tree.Grows later changed) :
    later.LeadsTo path location := by
  obtain ⟨hslash, content, hlocate⟩ := h
  obtain ⟨hsteps, hreaches⟩ := locate_eq_ok_iff.mp hlocate
  obtain ⟨found, hfound, halike⟩ := hreaches.of_grows rfl hgrows
  obtain ⟨other, rfl⟩ := halike.exists_file
  exact ⟨hslash, other, locate_eq_ok_iff.mpr ⟨hsteps, hfound⟩⟩

/-- What is read at a path is in the file that it leads to. -/
theorem read_eq_ok_iff : tree.read path = .ok content ↔
    ∃ location, tree.LeadsTo path location ∧ tree.get? location = some (.file content) := by
  constructor
  · intro h
    rw [read, bind_eq_ok_iff] at h
    obtain ⟨place, hlocate, h⟩ := h
    split at h
    · next found content =>
        obtain ⟨hslash, h⟩ := guard_eq_ok_iff.mp h
        cases h
        have hreaches := (locate_eq_ok_iff.mp hlocate).2
        exact ⟨found, ⟨eq_false_of_ne_true hslash, content, hlocate⟩, hreaches.get?_of_file rfl⟩
    · cases h
    · cases h
  · rintro ⟨location, hleads, hentry⟩
    obtain ⟨other, hother, hread⟩ := hleads.get?
    cases hentry.symm.trans hother
    exact hread

theorem fromUTF8?_eq_some_iff {text : String} :
    String.fromUTF8? content = some text ↔ content = text.toUTF8 := by
  rw [String.fromUTF8?]
  constructor
  · intro h
    split at h
    · cases h
      rfl
    · cases h
  · rintro rfl
    exact dif_pos text.isValidUTF8

theorem readText_eq_ok_iff {text : String} : tree.readText path = .ok text ↔
    ∃ location, tree.LeadsTo path location ∧
      tree.get? location = some (.file text.toUTF8) := by
  rw [← read_eq_ok_iff, readText, bind_eq_ok_iff]
  constructor
  · rintro ⟨content, hread, h⟩
    split at h
    · next found hfound =>
        cases h
        exact fromUTF8?_eq_some_iff.mp hfound ▸ hread
    · cases h
  · intro hread
    refine ⟨_, hread, ?_⟩
    rw [fromUTF8?_eq_some_iff.mpr rfl]
    rfl

/-- A file at a location that did not change reads as before. -/
theorem readText_of_grows {text : String} (hread : tree.readText path = .ok text)
    (hgrows : tree.Grows later changed)
    (hchanged : ∀ location, later.LeadsTo path location → ¬changed location) :
    later.readText path = .ok text := by
  obtain ⟨location, hleads, hentry⟩ := readText_eq_ok_iff.mp hread
  have hlater := hleads.of_grows hgrows
  obtain ⟨other, hother, hsame⟩ := hgrows.file hentry
  rw [hsame (hchanged location hlater)] at hother
  exact readText_eq_ok_iff.mpr ⟨location, hlater, hother⟩

/-! ### Writing -/

/-- What is written comes to the place of the path, in a new file or in place of what a file
held. -/
theorem exists_insert_of_write (h : tree.write path content = .ok later) :
    ∃ location, later = tree.insert location (.file content) ∧ path.endsInSlash = false ∧
      ((∃ before, tree.locate path.steps = .ok (.taken location (.file before))) ∨
        tree.locate path.steps = .ok (.free location)) := by
  rw [write, bind_eq_ok_iff] at h
  obtain ⟨place, hlocate, h⟩ := h
  split at h
  · cases h
  · next location before =>
      split at h
      · cases h
      next hslash =>
        cases h
        exact ⟨location, rfl, eq_false_of_ne_true hslash, .inl ⟨before, hlocate⟩⟩
  · next location =>
      split at h
      · cases h
      next hslash =>
        cases h
        exact ⟨location, rfl, eq_false_of_ne_true hslash, .inr hlocate⟩

/-- What is written stands where the path leads, and nothing else changes. -/
theorem write_eq_ok (h : tree.write path content = .ok later) :
    ∃ location, later.LeadsTo path location ∧ later = tree.insert location (.file content) ∧
      later.get? location = some (.file content) ∧ tree.Grows later (· = location) := by
  obtain ⟨location, rfl, hslash, ⟨before, hlocate⟩ | hlocate⟩ := exists_insert_of_write h
  · have hentry := (locate_eq_ok_iff.mp hlocate).2.get?_of_file rfl
    have hgrows : tree.Grows (tree.insert location (.file content)) (· = location) := by
      refine grows_insert_file hentry ?_ content
      rfl
    have hleads : tree.LeadsTo path location := ⟨hslash, before, hlocate⟩
    exact ⟨location, hleads.of_grows hgrows, rfl,
      get?_insert_self tree _ (ne_root_of_get? hentry), hgrows⟩
  · obtain ⟨hsteps, hreaches⟩ := locate_eq_ok_iff.mp hlocate
    have hentry := hreaches.get?_of_free rfl
    have hgrows : tree.Grows (tree.insert location (.file content)) (· = location) :=
      grows_insert_of_none hentry (.file content)
    have hroot : location ≠ [] := by
      rintro rfl
      cases hentry
    have hself := get?_insert_self tree (.file content) hroot
    exact ⟨location, ⟨hslash, content,
      locate_eq_ok_iff.mpr ⟨hsteps, hreaches.file_of_free rfl hgrows hself⟩⟩, rfl, hself, hgrows⟩

/-- Making directories is making one after another at free places: what each of them brings about
and what can be put together holds of all, whether making them succeeds or not. -/
theorem makeDirectoriesAt_induction {motive : Tree → Tree → Prop}
    (refl : ∀ tree, motive tree tree)
    (trans : ∀ tree later last, motive tree later → motive later last → motive tree last)
    (made : ∀ tree steps location, tree.locate steps = .ok (.free location) →
      motive tree (tree.insert location .directory))
    (tree : Tree) (steps : List String) : motive tree (tree.makeDirectoriesAt steps).1 := by
  have hmade {tree later : Tree} {steps : List String}
      (h : tree.makeDirectoryAt steps = .ok later) : motive tree later := by
    rw [makeDirectoryAt, bind_eq_ok_iff] at h
    obtain ⟨place, hlocate, h⟩ := h
    split at h
    · cases h
    · cases h
      exact made tree steps _ hlocate
  induction steps with
  | nil => exact refl tree
  | cons step above ih =>
      rw [makeDirectoriesAt]
      split
      · next later hlater => exact hmade hlater
      · split
        · next between error habove =>
            rw [habove] at ih
            exact ih
        · next between habove =>
            rw [habove] at ih
            split
            · next later hlater => exact trans tree between later ih (hmade hlater)
            · exact ih
      · exact refl tree
      · exact refl tree

/-- Making directories changes no file. -/
theorem makeDirectories_grows (path : Path) :
    tree.Grows (tree.makeDirectories path).1 changed :=
  makeDirectoriesAt_induction (motive := fun tree later => tree.Grows later changed)
    (fun tree => .refl tree changed) (fun _ _ _ => .trans)
    (fun _ _ _ h => grows_insert_of_none ((locate_eq_ok_iff.mp h).2.get?_of_free rfl) _) tree _

theorem makeDirectories_confined (path : Path) :
    tree.Confined (tree.makeDirectories path).1 changed :=
  makeDirectoriesAt_induction (motive := fun tree later => tree.Confined later changed)
    (fun tree => .refl tree changed) (fun _ _ _ => .trans)
    (fun tree _ location _ => tree.confined_insert_directory location) tree _

/-! ### Removing -/

theorem get?_erase_self (tree : Tree) (h : location ≠ []) :
    (tree.erase location).get? location = none := by
  rw [get?, if_neg h, Option.map_eq_none_iff, List.find?_eq_none]
  rintro ⟨other, entry⟩ hmem heq
  have hkept : (!location.isPrefixOf other) = true := (List.mem_filter.mp hmem).2
  cases eq_of_beq heq
  rw [List.isPrefixOf_iff_prefix.mpr List.prefix_rfl] at hkept
  cases hkept

/-- A path to a file leads there until the file is removed, and then it leads nowhere. -/
theorem not_leadsTo_remove : ¬(tree.remove path).LeadsTo path location := by
  intro h
  obtain ⟨content, hcontent, -⟩ := h.get?
  obtain ⟨-, other, hlater⟩ := h
  have hlocation := (locate_eq_ok_iff.mp hlater).2.location_eq
  cases hlocate : tree.locate path.steps with
  | error error =>
      rw [remove, hlocate] at hlater
      cases hlocate.symm.trans hlater
  | ok place =>
      have hplace := (locate_eq_ok_iff.mp hlocate).2.location_eq
      cases place with
      | free found =>
          rw [remove, hlocate] at hlater
          cases hlocate.symm.trans hlater
      | taken found entry =>
          cases hlocation.trans hplace.symm
          rw [remove, hlocate] at hcontent
          cases (get?_erase_self tree (ne_root_of_get? hcontent)).symm.trans hcontent

end Tree

end ShaderLayout
