import Mathlib.Data.List.TakeDrop
import ShaderLayout.Proofs.File.Closed

/-!
Texts of paths. A path is its pieces with slashes between them, so a path that
starts from another has the pieces of both. The name at its end is cut at its
last dot, and another extension changes nothing before that dot. Names that
follow a path lead down from where it leads. So paths by different names from one
start never meet, nor do paths with different names at their ends.
-/

namespace ShaderLayout

namespace Path

/-! ### Pieces -/

theorem pieces_eq_splitOn (text : List Char) : pieces text = text.splitOn '/' := by
  induction text with
  | nil => rfl
  | cons c rest ih =>
      rw [pieces, ih, List.splitOn_cons_eq_if_modifyHead]
      by_cases hslash : c = '/'
      · rw [if_pos hslash, if_pos (by simpa using hslash)]
      · rw [if_neg hslash, if_neg (by simpa using hslash)]
        cases hpieces : rest.splitOn '/' with
        | nil => exact absurd hpieces (List.splitOn_ne_nil _ _)
        | cons piece others => rfl

theorem intercalate_pieces (text : List Char) : ['/'].intercalate (pieces text) = text := by
  rw [pieces_eq_splitOn, List.intercalate_splitOn]

theorem pieces_intercalate {parts : List (List Char)} (h : ∀ part ∈ parts, '/' ∉ part)
    (hparts : parts ≠ []) : pieces (['/'].intercalate parts) = parts := by
  rw [pieces_eq_splitOn, List.splitOn_intercalate '/' h hparts]

theorem pieces_append_slash (front back : List Char) :
    pieces (front ++ '/' :: back) = pieces front ++ pieces back := by
  simp only [pieces_eq_splitOn, List.splitOn_append_cons_self]

/-! ### Paths that start from others -/

/-- What a path puts before one that starts from it. -/
def lead (base : Path) : String :=
  if base.text.isEmpty || base.endsInSlash then base.text else base.text ++ "/"

theorem join_eq {base path : Path} (h : path.isAbsolute = false) :
    base.join path = ⟨base.lead ++ path.text⟩ := by
  rw [join, lead, if_neg (by rw [h]; decide)]
  split <;> rfl

theorem steps_eq (path : Path) :
    path.steps = ((pieces path.text.toList).filter (!·.isEmpty)).map String.ofList :=
  rfl

/-- The pieces of a path stand before those of any path that starts from it, up to empty ones. -/
theorem exists_pieces_lead (base : Path) : ∃ front : List (List Char),
    (front.filter (!·.isEmpty)).map String.ofList = base.steps ∧
      ∀ rest, pieces (base.lead.toList ++ rest) = front ++ pieces rest := by
  rw [lead]
  by_cases hempty : base.text = ""
  · refine ⟨[], ?_, fun rest => ?_⟩
    · rw [steps_eq, hempty]
      rfl
    · simp [hempty]
  by_cases hslash : base.endsInSlash = true
  · obtain ⟨front, hfront⟩ := List.getLast?_eq_some_iff.mp (of_decide_eq_true hslash)
    refine ⟨pieces front, ?_, fun rest => ?_⟩
    · rw [steps_eq, hfront, pieces_append_slash, List.filter_append]
      simp [pieces]
    · rw [if_pos (by simp [hslash]), hfront, List.append_assoc]
      exact pieces_append_slash front rest
  · refine ⟨pieces base.text.toList, rfl, fun rest => ?_⟩
    rw [if_neg (by simpa [hempty] using hslash), String.toList_append, List.append_assoc]
    exact pieces_append_slash base.text.toList rest

theorem steps_join {base path : Path} (h : path.isAbsolute = false) :
    (base.join path).steps = base.steps ++ path.steps := by
  obtain ⟨front, hfront, hpieces⟩ := base.exists_pieces_lead
  rw [join_eq h, steps_eq, String.toList_append, hpieces, List.filter_append, List.map_append,
    hfront, steps_eq path]

end Path

/-! ### Paths of names -/

namespace FileName

theorem toList_spec (name : FileName) : name.text.toList ≠ [] ∧ '/' ∉ name.text.toList := by
  obtain ⟨hempty, -, -, hslash, -⟩ := of_decide_eq_true name.valid
  exact ⟨fun h => hempty (String.toList_eq_nil_iff.mp h), hslash⟩

theorem not_isSilent (name : FileName) : Path.isSilent name.text.toList = false := by
  obtain ⟨hempty, hdot, -⟩ := of_decide_eq_true name.valid
  rw [Path.isSilent, decide_eq_false_iff_not]
  rintro (h | h)
  · exact hempty (String.toList_eq_nil_iff.mp h)
  · exact hdot (String.toList_inj.mp h)

theorem not_isUp (name : FileName) : Path.isUp name.text.toList = false := by
  obtain ⟨-, -, hdots, -⟩ := of_decide_eq_true name.valid
  rw [Path.isUp, decide_eq_false_iff_not]
  exact fun h => hdots (String.toList_inj.mp h)

end FileName

namespace Location

variable {names : Location}

theorem pieces_text (h : names ≠ []) :
    Path.pieces names.text.toList = names.map (·.text.toList) := by
  rw [text, String.toList_intercalate, List.map_map]
  refine Path.pieces_intercalate ?_ (by simpa using h)
  exact List.forall_mem_map.mpr fun name _ => name.toList_spec.2

theorem isAbsolute_text (names : Location) : Path.isAbsolute ⟨names.text⟩ = false := by
  rw [Path.isAbsolute, decide_eq_false_iff_not]
  intro hslash
  cases names with
  | nil => cases hslash
  | cons name rest =>
      have hpieces := pieces_text (List.cons_ne_nil name rest)
      obtain ⟨back, hback⟩ := List.head?_eq_some_iff.mp hslash
      rw [hback, Path.pieces, if_pos rfl, List.map_cons] at hpieces
      exact name.toList_spec.1 (List.cons.inj hpieces).1.symm

theorem steps_text (names : Location) : Path.steps ⟨names.text⟩ = names.map (·.text) := by
  cases names with
  | nil => rfl
  | cons name rest =>
      have hkept : ((name :: rest).map (·.text.toList)).filter (!·.isEmpty) =
          (name :: rest).map (·.text.toList) :=
        List.filter_eq_self.mpr (List.forall_mem_map.mpr fun name _ => by
          simpa using name.toList_spec.1)
      rw [Path.steps_eq, pieces_text (List.cons_ne_nil name rest), hkept, List.map_map]
      simp

/-- Names stand behind the pieces of the path that they start from. -/
theorem exists_pieces_join (base : Path) : ∃ front : List (List Char), ∀ names : Location,
    names ≠ [] →
      Path.pieces (base.join ⟨names.text⟩).text.toList = front ++ names.map (·.text.toList) := by
  obtain ⟨front, -, hpieces⟩ := base.exists_pieces_lead
  refine ⟨front, fun names hnames => ?_⟩
  rw [Path.join_eq names.isAbsolute_text, String.toList_append, hpieces, pieces_text hnames]

theorem steps_join (base : Path) (names : Location) :
    (base.join ⟨names.text⟩).steps = base.steps ++ names.map (·.text) := by
  rw [Path.steps_join names.isAbsolute_text, steps_text]

theorem endsInSlash_join (base : Path) (h : names ≠ []) :
    (base.join ⟨names.text⟩).endsInSlash = false := by
  obtain ⟨front, hpieces⟩ := exists_pieces_join base
  have hpieces := hpieces names h
  obtain ⟨dirs, name, rfl⟩ := names.eq_nil_or_concat'.resolve_left h
  rw [Path.endsInSlash, decide_eq_false_iff_not]
  intro hslash
  obtain ⟨text, htext⟩ := List.getLast?_eq_some_iff.mp hslash
  rw [htext, Path.pieces_append_slash, List.map_append, ← List.append_assoc] at hpieces
  have hlast := (List.append_inj' hpieces rfl).2
  exact name.toList_spec.1 (List.cons.inj hlast).1.symm

theorem lead_join (base : Path) (h : names ≠ []) :
    (base.join ⟨names.text⟩).lead = (base.join ⟨names.text⟩).text ++ "/" := by
  have hempty : (base.join ⟨names.text⟩).text ≠ "" := by
    intro hempty
    have hsteps := steps_join base names
    rw [Path.steps_eq, hempty] at hsteps
    exact h (List.map_eq_nil_iff.mp (List.append_eq_nil_iff.mp hsteps.symm).2)
  rw [Path.lead, endsInSlash_join base h, if_neg (by simpa using hempty)]

theorem text_append_singleton (h : names ≠ []) (name : FileName) :
    text (names ++ [name]) = names.text ++ "/" ++ name.text := by
  rw [text, List.map_append, String.intercalate_append_of_ne_nil (by simpa using h) (by simp)]
  simp [text]

/-- Going down name by name comes to the same text. -/
theorem foldl_child (base : Path) (h : names ≠ []) :
    names.foldl (fun path name => path.child name.text) base = base.join ⟨names.text⟩ := by
  induction names using List.reverseRecOn with
  | nil => exact absurd rfl h
  | append_singleton dirs name ih =>
      have hone : text [name] = name.text := String.intercalate_singleton
      rw [List.foldl_append, List.foldl_cons, List.foldl_nil, Path.child, ← hone]
      by_cases hdirs : dirs = []
      · rw [hdirs]
        rfl
      · rw [ih hdirs, Path.join_eq (isAbsolute_text [name]), lead_join base hdirs,
          Path.join_eq (isAbsolute_text dirs), Path.join_eq (isAbsolute_text _),
          text_append_singleton hdirs, hone]
        simp [String.append_assoc]

end Location

/-! ### The name at the end of a path -/

namespace Path

theorem dropSilent_cons {piece : List Char} (h : isSilent piece = false)
    (rest : List (List Char)) : dropSilent (piece :: rest) = piece :: rest := by
  cases rest with
  | nil => rfl
  | cons other others => rw [dropSilent, if_neg (by rw [h]; decide)]; exact nofun

/-- A dot cuts a name, if no other follows it and something stands before it. -/
theorem splitName_append {stem extension : List Char} (hstem : stem ≠ [])
    (hextension : '.' ∉ extension) :
    splitName (stem ++ '.' :: extension) = (stem, some extension) := by
  have hnot : ∀ c ∈ extension.reverse, decide (c ≠ '.') = true := fun c hc =>
    decide_eq_true fun heq => hextension (heq ▸ List.mem_reverse.mp hc)
  have hreverse : (stem ++ '.' :: extension).reverse =
      extension.reverse ++ '.' :: stem.reverse := by
    simp
  rw [splitName, hreverse, List.span_eq_takeWhile_dropWhile,
    List.takeWhile_append_of_pos hnot, List.dropWhile_append_of_pos hnot]
  simp [hstem]

theorem splitName_eq_some_iff {name extension : List Char} :
    (splitName name).2 = some extension ↔
      ∃ stem, stem ≠ [] ∧ '.' ∉ extension ∧ name = stem ++ '.' :: extension := by
  constructor
  · intro h
    have hcut := List.takeWhile_append_dropWhile (p := (· ≠ '.')) (l := name.reverse)
    have hhead := List.head?_dropWhile_not (· ≠ '.') name.reverse
    have hbehind := List.all_eq_true.mp (List.all_takeWhile (p := (· ≠ '.')) (l := name.reverse))
    rw [splitName, List.span_eq_takeWhile_dropWhile] at h
    cases hrest : name.reverse.dropWhile (· ≠ '.') with
    | nil =>
        rw [hrest] at h
        cases h
    | cons c stem =>
        rw [hrest] at h hcut hhead
        by_cases hstem : stem = []
        · simp [hstem] at h
        simp only [if_neg hstem, Option.some.injEq] at h
        have hdot : c = '.' := by simpa using hhead
        refine ⟨stem.reverse, by simpa using hstem, fun hmem => ?_, ?_⟩
        · rw [← h, List.mem_reverse] at hmem
          simpa using hbehind '.' hmem
        · rw [← List.reverse_reverse name, ← hcut, ← h, hdot]
          simp
  · rintro ⟨stem, hstem, hextension, rfl⟩
    rw [splitName_append hstem hextension]

/-- A path goes through pieces to the name at its end. -/
def EndsIn (path : Path) (front : List (List Char)) (name : FileName) : Prop :=
  pieces path.text.toList = front ++ [name.text.toList]

namespace EndsIn

variable {path other : Path} {front : List (List Char)} {name renamed : FileName}

theorem reversed (h : path.EndsIn front name) :
    path.reversed = name.text.toList :: front.reverse := by
  rw [Path.reversed, h, List.reverse_concat, dropSilent_cons name.not_isSilent]

theorem extension? (h : path.EndsIn front name) :
    path.extension? = (splitName name.text.toList).2.map String.ofList := by
  have hname : path.name? = some name.text := by
    rw [name?, h.reversed]
    simp [name.not_isSilent, name.not_isUp]
  rw [Path.extension?, hname]
  cases hsplit : (splitName name.text.toList).2 <;> simp [hsplit]

theorem eq_ofPieces (h : path.EndsIn front name) :
    path = ofPieces (front ++ [name.text.toList]) := by
  have hname : front ++ [name.text.toList] ≠ [[]] := by
    intro heq
    have hlast := (List.append_inj' (heq.trans (List.nil_append [[]]).symm) rfl).2
    exact name.toList_spec.1 (List.cons.inj hlast).1
  rw [ofPieces, if_neg hname, ← h, intercalate_pieces, String.ofList_toList]

/-- Another extension makes another name at the same place. -/
theorem withExtension (h : path.EndsIn front name) (hother : other.EndsIn front renamed)
    {extension : String} (hrenamed : renamed.text.toList =
      (splitName name.text.toList).1 ++ '.' :: extension.toList) :
    path.withExtension extension = other := by
  rw [Path.withExtension, h.reversed]
  simp only [name.not_isSilent, name.not_isUp, Bool.false_eq_true, or_self, if_false]
  rw [← hrenamed, List.reverse_cons, List.reverse_reverse, ← hother.eq_ofPieces]

example : (join ⟨"build/"⟩ ⟨"late/b.v2.metal"⟩).withExtension "air" = ⟨"build/late/b.v2.air"⟩ := by
  decide +kernel

end EndsIn

end Path

/-- Where names lead from a path, the last of them is at the end. -/
theorem Location.exists_endsIn_join (base : Path) (dirs : Location) :
    ∃ front, ∀ name : FileName, (base.join ⟨text (dirs ++ [name])⟩).EndsIn front name := by
  obtain ⟨front, hpieces⟩ := exists_pieces_join base
  refine ⟨front ++ dirs.map (·.text.toList), fun name => ?_⟩
  rw [Path.EndsIn, hpieces _ (List.concat_ne_nil name dirs), List.map_append, List.append_assoc]
  rfl

/-! ### Following paths of names -/

namespace Tree

variable {tree : Tree} {here there : Location} {steps rest : List String} {place : Place}
  {names : Location} {base : Path} {content : ByteArray}

/-- Names lead to where they say. -/
theorem endOf_names (here names : Location) :
    endOf here (names.map (·.text)) = here ++ names := by
  induction names generalizing here with
  | nil => exact (List.append_nil here).symm
  | cons name rest ih =>
      rw [List.map_cons, endOf_name, ih, List.append_assoc, List.singleton_append]

namespace Reaches

theorem append (h : tree.Reaches here steps (.taken there .directory))
    (hrest : tree.Reaches there rest place) : tree.Reaches here (steps ++ rest) place := by
  generalize htarget : Place.taken there .directory = target at h
  induction h with
  | stop here =>
      cases htarget
      exact hrest
  | stay _ ih => exact .stay (ih htarget)
  | up _ ih => exact .up (ih htarget)
  | down hentry _ ih => exact .down hentry (ih htarget)
  | file hentry => cases htarget
  | free hentry => cases htarget

theorem of_append (h : tree.Reaches here (steps ++ rest) place) (hrest : rest ≠ []) :
    ∃ there, tree.Reaches here steps (.taken there .directory) ∧ tree.Reaches there rest place := by
  induction steps generalizing here with
  | nil => exact ⟨here, .stop here, h⟩
  | cons step steps ih =>
      rw [List.cons_append] at h
      generalize hall : steps ++ rest = all at h
      cases h with
      | stay h =>
          obtain ⟨there, hthere, hplace⟩ := ih (hall ▸ h)
          exact ⟨there, .stay hthere, hplace⟩
      | up h =>
          obtain ⟨there, hthere, hplace⟩ := ih (hall ▸ h)
          exact ⟨there, .up hthere, hplace⟩
      | down hentry h =>
          obtain ⟨there, hthere, hplace⟩ := ih (hall ▸ h)
          exact ⟨there, .down hentry hthere, hplace⟩
      | file hentry => exact absurd (List.append_eq_nil_iff.mp hall).2 hrest
      | free hentry => exact absurd (List.append_eq_nil_iff.mp hall).2 hrest

/-- In a closed tree names lead down to a file. -/
theorem of_get? (h : tree.Closed) (hentry : tree.get? (here ++ names) = some (.file content))
    (hnames : names ≠ []) :
    tree.Reaches here (names.map (·.text)) (.taken (here ++ names) (.file content)) := by
  induction names generalizing here with
  | nil => exact absurd rfl hnames
  | cons name rest ih =>
      by_cases hrest : rest = []
      · subst hrest
        exact .file hentry
      · rw [List.append_cons] at hentry ⊢
        exact .down (h.directory_of_append (hentry ▸ Option.some_ne_none _) hrest)
          (ih hentry hrest)

end Reaches

/-- Paths that start from one path lead to places below one directory. -/
theorem exists_location_of_join (hnames : names ≠ [])
    (h : tree.locate (base.join ⟨Location.text names⟩).steps = .ok place) :
    ∃ there, tree.locate base.steps = .ok (.taken there .directory) ∧
      place.location = there ++ names := by
  rw [Location.steps_join] at h
  obtain ⟨hsteps, hreaches⟩ := locate_eq_ok_iff.mp h
  obtain ⟨there, hthere, hplace⟩ := hreaches.of_append (by simpa using hnames)
  rw [List.any_append, Bool.or_eq_false_iff] at hsteps
  exact ⟨there, locate_eq_ok_iff.mpr ⟨hsteps.1, hthere⟩, hplace.location_eq.trans (endOf_names ..)⟩

theorem Closed.leadsTo_join (h : tree.Closed)
    (hbase : tree.locate base.steps = .ok (.taken here .directory)) (hnames : names ≠ [])
    (hentry : tree.get? (here ++ names) = some (.file content)) :
    tree.LeadsTo (base.join ⟨Location.text names⟩) (here ++ names) := by
  obtain ⟨hsteps, hreaches⟩ := locate_eq_ok_iff.mp hbase
  have hvalid : (names.map (·.text)).any (·.toList.contains '\x00') = false := by
    rw [List.any_eq_false]
    refine List.forall_mem_map.mpr fun name _ => ?_
    simpa using (of_decide_eq_true name.valid).2.2.2.2
  refine ⟨Location.endsInSlash_join base hnames, content, ?_⟩
  rw [Location.steps_join, locate_eq_ok_iff, List.any_append, hsteps, hvalid]
  exact ⟨rfl, hreaches.append (.of_get? h hentry hnames)⟩

end Tree

/-! ### Paths that never meet -/

/-- These are different paths, and in no tree do they lead to one place. -/
def Path.Apart (path other : Path) : Prop :=
  path.names ≠ other.names ∧ ∀ (tree : Tree) (place place' : Place),
    tree.locate path.steps = .ok place → tree.locate other.steps = .ok place' →
      place.location ≠ place'.location

namespace Location

variable {names others : Location} {base base' : Path}

theorem names_join (base : Path) (names : Location) :
    (base.join ⟨names.text⟩).names = base.names ++ names.map (·.text) := by
  have hkept : (names.map (·.text)).filter (· ≠ ".") = names.map (·.text) :=
    List.filter_eq_self.mpr (List.forall_mem_map.mpr fun name _ => by simpa using name.text_ne.1)
  rw [Path.names, steps_join, List.filter_append, hkept, Path.names]

theorem map_text_inj : names.map (·.text) = others.map (·.text) ↔ names = others :=
  Function.Injective.list_map (fun _ _ => FileName.ext) |>.eq_iff

theorem apart_of_ne (hnames : names ≠ []) (hothers : others ≠ []) (h : names ≠ others) :
    (base.join ⟨names.text⟩).Apart (base.join ⟨others.text⟩) := by
  constructor
  · rw [names_join, names_join, ne_eq, List.append_cancel_left_eq, map_text_inj]
    exact h
  · intro tree place place' hplace hplace' heq
    obtain ⟨there, hthere, hlocation⟩ := tree.exists_location_of_join hnames hplace
    obtain ⟨there', hthere', hlocation'⟩ := tree.exists_location_of_join hothers hplace'
    cases hthere.symm.trans hthere'
    rw [hlocation, hlocation'] at heq
    exact h (List.append_cancel_left heq)

theorem apart_of_last_ne {dirs dirs' : Location} {name name' : FileName} (h : name ≠ name') :
    (base.join ⟨text (dirs ++ [name])⟩).Apart (base'.join ⟨text (dirs' ++ [name'])⟩) := by
  constructor
  · rw [names_join, names_join, List.map_append, List.map_append, ← List.append_assoc,
      ← List.append_assoc]
    intro heq
    exact h (FileName.ext (List.cons.inj (List.append_inj' heq rfl).2).1)
  · intro tree place place' hplace hplace' heq
    obtain ⟨there, -, hlocation⟩ :=
      tree.exists_location_of_join (List.concat_ne_nil name dirs) hplace
    obtain ⟨there', -, hlocation'⟩ :=
      tree.exists_location_of_join (List.concat_ne_nil name' dirs') hplace'
    rw [hlocation, hlocation', ← List.append_assoc, ← List.append_assoc] at heq
    exact h (List.cons.inj (List.append_inj' heq rfl).2).1

end Location

end ShaderLayout
