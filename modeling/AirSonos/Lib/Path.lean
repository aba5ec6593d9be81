import Mathlib.Data.List.Basic

/-!
# Paths as text

A path is a row of characters with slashes. Joining an absolute path replaces the base. What a
path names is decided by its components: empty segments and interior dots do not count.
-/

namespace Path

inductive Component
  | rootDir
  | curDir
  | parentDir
  | normal (name : List Char)
deriving DecidableEq

def join (base path : List Char) : List Char :=
  if path.head? = some '/' then path
  else if base = [] ∨ base.getLast? = some '/' then base ++ path
  else base ++ '/' :: path

def component (segment : List Char) : Option Component :=
  if segment = [] ∨ segment = ['.'] then none
  else if segment = ['.', '.'] then some .parentDir
  else some (.normal segment)

def interior (path : List Char) : List Component :=
  (path.splitOn '/').filterMap component

/-- A dot counts only at the start of a relative path. -/
def start (path : List Char) : List Component :=
  if path.head? = some '/' then [.rootDir]
  else if (path.splitOn '/').head? = some ['.'] then [.curDir]
  else []

def components (path : List Char) : List Component :=
  start path ++ interior path

def DirectChild (dir path : List Char) : Prop :=
  ∃ name, components path = components dir ++ [.normal name]

theorem interior_append (front back : List Char) :
    interior (front ++ '/' :: back) = interior front ++ interior back := by
  rw [interior, List.splitOn_append_cons_self, List.filterMap_append]
  rfl

theorem components_append {base : List Char} (nonempty : base ≠ []) (path : List Char) :
    components (base ++ '/' :: path) = components base ++ interior path := by
  have hstart : start (base ++ '/' :: path) = start base := by
    unfold start
    rw [List.head?_append_of_ne_nil _ nonempty, List.splitOn_append_cons_self,
      List.head?_append_of_ne_nil _ (List.splitOn_ne_nil '/' base)]
  rw [components, hstart, interior_append, components, List.append_assoc]

theorem components_join {base path : List Char} (nonempty : base ≠ [])
    (relative : path.head? ≠ some '/') :
    components (join base path) = components base ++ interior path := by
  rw [join, if_neg relative]
  split
  · next h =>
    obtain hnil | hslash := h
    · exact absurd hnil nonempty
    obtain ⟨front, rfl⟩ : ∃ front, base = front ++ ['/'] := List.getLast?_eq_some_iff.mp hslash
    rw [List.append_assoc, List.singleton_append]
    cases front with
    | nil => rfl
    | cons c front =>
      rw [components_append (List.cons_ne_nil _ _), components_append (List.cons_ne_nil _ _)]
      have hempty : interior [] = [] := rfl
      rw [hempty, List.append_nil]
  · exact components_append nonempty path

theorem join_ne_nil (base : List Char) {path : List Char} (nonempty : path ≠ []) :
    join base path ≠ [] := by
  unfold join
  split
  · exact nonempty
  split
  · simp [nonempty]
  · simp

/-! ### Names with an ending -/

def leadingSegments (name : List Char) : List (List Char) :=
  (name.splitOn '/').dropLast

def lastSegment (name : List Char) : List Char :=
  (name.splitOn '/').getLast (List.splitOn_ne_nil '/' name)

/-- A relative name whose segments before the last one do not count. -/
structure StaysInside (name : List Char) : Prop where
  relative : name.head? ≠ some '/'
  leading : ∀ segment ∈ leadingSegments name, segment = [] ∨ segment = ['.']

theorem splitOn_append_plain (name : List Char) {ending : List Char} (plain : '/' ∉ ending) :
    (name ++ ending).splitOn '/' = leadingSegments name ++ [lastSegment name ++ ending] := by
  by_cases hslash : '/' ∈ name
  · obtain ⟨back, front, hreverse, hback⟩ :=
      List.eq_append_cons_of_mem (List.mem_reverse.mpr hslash)
    obtain rfl : name = front.reverse ++ '/' :: back.reverse := by
      rw [← List.reverse_reverse name, hreverse]
      simp
    have hback' : '/' ∉ back.reverse := by simpa using hback
    have hending : '/' ∉ back.reverse ++ ending := by simp [hback, plain]
    have hname : (front.reverse ++ '/' :: back.reverse).splitOn '/' =
        front.reverse.splitOn '/' ++ [back.reverse] := by
      rw [List.splitOn_append_cons_self, List.splitOn_eq_singleton hback']
    rw [List.append_assoc, List.cons_append, List.splitOn_append_cons_self,
      List.splitOn_eq_singleton hending]
    simp [leadingSegments, lastSegment, hname]
  · have hending : '/' ∉ name ++ ending := by simp [hslash, plain]
    have hname := List.splitOn_eq_singleton hslash
    rw [List.splitOn_eq_singleton hending]
    simp [leadingSegments, lastSegment, hname]

theorem leadingSegments_plain {name : List Char} (plain : '/' ∉ name) :
    leadingSegments name = [] := by
  rw [leadingSegments, List.splitOn_eq_singleton plain]
  rfl

theorem lastSegment_plain {name : List Char} (plain : '/' ∉ name) : lastSegment name = name := by
  simp [lastSegment, List.splitOn_eq_singleton plain]

theorem staysInside_plain {name : List Char} (plain : '/' ∉ name) : StaysInside name := by
  constructor
  · intro h
    exact plain (List.mem_of_mem_head? h)
  · intro segment hsegment
    rw [leadingSegments_plain plain] at hsegment
    cases hsegment

theorem component_eq_none_iff {segment : List Char} :
    component segment = none ↔ segment = [] ∨ segment = ['.'] := by
  unfold component
  split
  · case isTrue h => exact ⟨fun _ => h, fun _ => rfl⟩
  · case isFalse h =>
    constructor
    · intro hnone
      split at hnone <;> cases hnone
    · intro h'
      exact absurd h' h

/-- An ending of a file name: it has no slash, and no name that ends with it is a dot or two. -/
structure Ending (ending : List Char) : Prop where
  plain : '/' ∉ ending
  long : 2 < ending.length

theorem component_ending {ending : List Char} (h : Ending ending) (name : List Char) :
    component (name ++ ending) = some (.normal (name ++ ending)) := by
  have hlength : 2 < (name ++ ending).length := by
    rw [List.length_append]
    have := h.long
    omega
  unfold component
  rw [if_neg, if_neg]
  · intro heq
    rw [heq] at hlength
    exact absurd hlength (by decide)
  · rintro (heq | heq)
    · rw [heq] at hlength
      exact absurd hlength (by decide)
    · rw [heq] at hlength
      exact absurd hlength (by decide)

theorem interior_ending {ending : List Char} (h : Ending ending) (name : List Char) :
    interior (name ++ ending) =
      (leadingSegments name).filterMap component ++ [.normal (lastSegment name ++ ending)] := by
  rw [interior, splitOn_append_plain name h.plain, List.filterMap_append,
    List.filterMap_cons_some (component_ending h _)]
  rfl

/-- The file in the directory that a name leads to. -/
def fileIn (dir name ending : List Char) : List Char :=
  join dir (name ++ ending)

theorem head?_ending {ending : List Char} (h : Ending ending) {name : List Char} :
    (name ++ ending).head? = some '/' ↔ name.head? = some '/' := by
  cases name with
  | nil =>
    constructor
    · intro hhead
      exact absurd (List.mem_of_mem_head? hhead) h.plain
    · intro hhead
      cases hhead
  | cons c name => rfl

theorem components_fileIn {dir ending : List Char} (nonempty : dir ≠ []) (h : Ending ending)
    {name : List Char} (inside : StaysInside name) :
    components (fileIn dir name ending) =
      components dir ++ [.normal (lastSegment name ++ ending)] := by
  have hleading : (leadingSegments name).filterMap component = [] := by
    rw [List.filterMap_eq_nil_iff]
    intro segment hsegment
    exact component_eq_none_iff.mpr (inside.leading segment hsegment)
  rw [fileIn, components_join nonempty ((head?_ending h).not.mpr inside.relative),
    interior_ending h, hleading]
  rfl

theorem directChild_fileIn {dir ending : List Char} (nonempty : dir ≠ []) (h : Ending ending)
    {name : List Char} (inside : StaysInside name) : DirectChild dir (fileIn dir name ending) :=
  ⟨_, components_fileIn nonempty h inside⟩

/-- Inside two directories at once, a name cannot be absolute, so it stays inside. -/
theorem staysInside_of_directChild {dir dir' ending : List Char} (nonempty : dir ≠ [])
    (apart : components dir ≠ components dir') (h : Ending ending) {name : List Char}
    (child : DirectChild dir (fileIn dir name ending))
    (child' : DirectChild dir' (fileIn dir' name ending)) : StaysInside name := by
  obtain ⟨file, hfile⟩ := child
  have hrelative : name.head? ≠ some '/' := by
    intro hroot
    obtain ⟨file', hfile'⟩ := child'
    rw [fileIn, join, if_pos ((head?_ending h).mpr hroot)] at hfile hfile'
    exact apart (List.append_inj_left' (hfile.symm.trans hfile') rfl)
  refine ⟨hrelative, ?_⟩
  rw [fileIn, components_join nonempty ((head?_ending h).not.mpr hrelative), interior_ending h]
    at hfile
  have hlength := congrArg List.length (List.append_cancel_left hfile)
  rw [List.length_append, List.length_singleton, List.length_singleton] at hlength
  have hleading := List.eq_nil_of_length_eq_zero (Nat.succ.inj hlength)
  intro segment hsegment
  exact component_eq_none_iff.mp (List.filterMap_eq_nil_iff.mp hleading segment hsegment)

theorem components_join_plain (base : List Char) {name : List Char} (plain : '/' ∉ name)
    (counts : component name = some (.normal name)) :
    ∃ front, components (join base name) = front ++ [.normal name] := by
  have hrelative : name.head? ≠ some '/' := fun h => plain (List.mem_of_mem_head? h)
  have hinterior : interior name = [.normal name] := by
    rw [interior, List.splitOn_eq_singleton plain, List.filterMap_cons_some counts]
    rfl
  by_cases hbase : base = []
  · subst hbase
    refine ⟨start name, ?_⟩
    have hjoin : join [] name = name := by
      rw [join, if_neg hrelative, if_pos (Or.inl rfl)]
      rfl
    rw [hjoin, components, hinterior]
  · exact ⟨components base, by rw [components_join hbase hrelative, hinterior]⟩

end Path
