import Mathlib.Data.List.Basic
import Mathlib.Data.Option.Basic

/-!
# Reading XML text

Markup is cut into tags and character data, and the tags are matched into a tree. Comments,
sections and declarations are not read. Character data stays as it is written until its
references to the five predefined entities are resolved.
-/

namespace Xml

/-! ### Character data -/

/-- The characters with a predefined entity, and the name of the entity. -/
def entities : List (Char × List Char) :=
  [('&', "amp".toList), ('<', "lt".toList), ('>', "gt".toList), ('"', "quot".toList),
    ('\'', "apos".toList)]

def resolve (name : List Char) : Option Char :=
  (entities.find? fun entity => entity.2 = name).map Prod.fst

def escapeChar (c : Char) : List Char :=
  match entities.lookup c with
  | some name => '&' :: name ++ [';']
  | none => [c]

def escape (value : List Char) : List Char :=
  value.flatMap escapeChar

/-- Resolves references, one of which may have been read in part. -/
def decodeFrom : Option (List Char) → List Char → Option (List Char)
  | none, [] => some []
  | some _, [] => none
  | none, c :: rest =>
    if c = '&' then decodeFrom (some []) rest else (decodeFrom none rest).map (c :: ·)
  | some name, c :: rest =>
    if c = ';' then (resolve name).bind fun d => (decodeFrom none rest).map (d :: ·)
    else decodeFrom (some (name ++ [c])) rest

def decode (text : List Char) : Option (List Char) :=
  decodeFrom none text

theorem lookup_entities (c : Char) :
    (c = '&' ∨ c = '<' ∨ c = '>' ∨ c = '"' ∨ c = '\'') ∨ entities.lookup c = none := by
  by_cases h : c = '&' ∨ c = '<' ∨ c = '>' ∨ c = '"' ∨ c = '\''
  · exact .inl h
  · right
    rw [List.lookup_eq_none_iff]
    rintro ⟨d, name⟩ hmem
    simp only [not_or] at h
    obtain ⟨hamp, hlt, hgt, hquot, hapos⟩ := h
    simp only [entities, List.mem_cons, Prod.mk.injEq, List.not_mem_nil, or_false] at hmem
    rcases hmem with ⟨rfl, -⟩ | ⟨rfl, -⟩ | ⟨rfl, -⟩ | ⟨rfl, -⟩ | ⟨rfl, -⟩
    · exact bne_iff_ne.mpr hamp
    · exact bne_iff_ne.mpr hlt
    · exact bne_iff_ne.mpr hgt
    · exact bne_iff_ne.mpr hquot
    · exact bne_iff_ne.mpr hapos

theorem escapeChar_of_none {c : Char} (plain : entities.lookup c = none) : escapeChar c = [c] := by
  rw [escapeChar, plain]

theorem decodeFrom_escapeChar (c : Char) (rest : List Char) :
    decodeFrom none (escapeChar c ++ rest) = (decodeFrom none rest).map (c :: ·) := by
  rcases lookup_entities c with (rfl | rfl | rfl | rfl | rfl) | hplain
  · rfl
  · rfl
  · rfl
  · rfl
  · rfl
  · have hamp : c ≠ '&' := by
      rintro rfl
      cases hplain
    rw [escapeChar_of_none hplain, List.singleton_append, decodeFrom, if_neg hamp]

theorem decode_escape (value : List Char) : decode (escape value) = some value := by
  unfold decode escape
  induction value with
  | nil => rfl
  | cons c rest ih => rw [List.flatMap_cons, decodeFrom_escapeChar, ih, Option.map_some]

theorem escape_of_plain {value : List Char} (plain : ∀ c ∈ value, entities.lookup c = none) :
    escape value = value := by
  unfold escape
  induction value with
  | nil => rfl
  | cons c rest ih =>
    rw [List.flatMap_cons, escapeChar_of_none (plain c List.mem_cons_self),
      ih fun d hd => plain d (List.mem_cons_of_mem c hd), List.singleton_append]

/-- Escaped text opens no tag. -/
theorem not_mem_escape (value : List Char) : '<' ∉ escape value := by
  unfold escape
  rw [List.mem_flatMap]
  rintro ⟨c, -, hmem⟩
  rcases lookup_entities c with (rfl | rfl | rfl | rfl | rfl) | hplain
  · revert hmem
    decide
  · revert hmem
    decide
  · revert hmem
    decide
  · revert hmem
    decide
  · revert hmem
    decide
  · rw [escapeChar_of_none hplain, List.mem_singleton] at hmem
    subst hmem
    cases hplain

/-! ### Tags -/

inductive Token
  | text (content : List Char)
  | start (name attributes : List Char)
  | empty (name attributes : List Char)
  | finish (name : List Char)
  | instruction (content : List Char)
deriving DecidableEq

def splitName (content : List Char) : List Char × List Char :=
  content.span fun c => !c.isWhitespace

/-- What stands between the angle brackets of a tag. -/
def classify (content : List Char) : Option Token :=
  if content.head? = some '!' then none
  else if content.head? = some '?' then some (.instruction content)
  else if content.head? = some '/' then some (.finish (splitName content.tail).1)
  else if content.getLast? = some '/' then
    some (.empty (splitName content.dropLast).1 (splitName content.dropLast).2)
  else some (.start (splitName content).1 (splitName content).2)

/-- What is being read: character data, or a tag, perhaps inside a quoted value. -/
inductive Mode
  | text (read : List Char)
  | tag (read : List Char) (quote : Option Char)
deriving DecidableEq

/-- A finished token in front of what follows. -/
def emit (token : Token) (result : Option (List Token × Mode)) : Option (List Token × Mode) :=
  result.map fun later => (token :: later.1, later.2)

/-- The tokens that end in the text, and what is being read at its end. -/
def lex : Mode → List Char → Option (List Token × Mode)
  | mode, [] => some ([], mode)
  | .text read, c :: rest =>
    if c = '<' then emit (.text read) (lex (.tag [] none) rest) else lex (.text (read ++ [c])) rest
  | .tag read none, c :: rest =>
    if c = '<' then none
    else if c = '>' then (classify read).bind fun token => emit token (lex (.text []) rest)
    else if c = '"' ∨ c = '\'' then lex (.tag (read ++ [c]) (some c)) rest
    else lex (.tag (read ++ [c]) none) rest
  | .tag read (some quote), c :: rest =>
    lex (.tag (read ++ [c]) (if c = quote then none else some quote)) rest

theorem lex_text {read piece : List Char} (plain : '<' ∉ piece) :
    lex (.text read) piece = some ([], .text (read ++ piece)) := by
  induction piece generalizing read with
  | nil => rw [lex, List.append_nil]
  | cons c rest ih =>
    rw [List.mem_cons, not_or] at plain
    rw [lex, if_neg (Ne.symm plain.1), ih plain.2, List.append_assoc, List.singleton_append]

/-- Character data ends where a tag begins. -/
theorem lex_tag (read rest : List Char) :
    lex (.text read) ('<' :: rest) = emit (.text read) (lex (.tag [] none) rest) :=
  rfl

/-- The tokens of a text followed by those of another one. -/
def andThen (first : Option (List Token × Mode)) (after : List Char) :
    Option (List Token × Mode) :=
  first.bind fun earlier =>
    (lex earlier.2 after).map fun later => (earlier.1 ++ later.1, later.2)

theorem andThen_emit (token : Token) (first : Option (List Token × Mode)) (after : List Char) :
    andThen (emit token first) after = emit token (andThen first after) := by
  cases first with
  | none => rfl
  | some earlier =>
    simp only [andThen, emit, Option.map_some, Option.bind_some, Option.map_map]
    rfl

theorem lex_append (mode : Mode) (before after : List Char) :
    lex mode (before ++ after) = andThen (lex mode before) after := by
  induction before generalizing mode with
  | nil =>
    rw [List.nil_append, lex]
    exact Option.map_id'.symm
  | cons c rest ih =>
    rw [List.cons_append]
    cases mode with
    | text read =>
      simp only [lex]
      split
      · rw [andThen_emit, ih]
      · exact ih _
    | tag read quote =>
      cases quote with
      | none =>
        simp only [lex]
        split
        · rfl
        split
        · cases classify read with
          | none => rfl
          | some token =>
            simp only [Option.bind_some]
            rw [andThen_emit, ih]
        split
        · exact ih _
        · exact ih _
      | some quote =>
        simp only [lex]
        exact ih _

/-- Character data between markup that is already known. -/
theorem lex_around {mode mode' : Mode} {front back content : List Char}
    {before after : List Token} (plain : '<' ∉ content)
    (hfront : lex mode front = some (before, .text []))
    (hback : lex (.tag [] none) back = some (after, mode')) :
    lex mode (front ++ (content ++ '<' :: back)) =
      some (before ++ .text content :: after, mode') := by
  rw [lex_append, hfront, andThen, Option.bind_some, lex_append, lex_text plain, andThen,
    Option.bind_some, lex_tag, hback]
  rfl

/-! ### Elements -/

inductive Node
  | text (content : List Char)
  | element (name attributes : List Char) (children : List Node)

/-- An open element with the nodes before it. -/
structure Open where
  name : List Char
  attributes : List Char
  before : List Node

/-- Matches end tags with the start tags around them. -/
def build : List Open → List Node → List Token → Option (List Node)
  | [], nodes, [] => some nodes
  | _ :: _, _, [] => none
  | stack, nodes, .text content :: tokens => build stack (nodes ++ [.text content]) tokens
  | stack, nodes, .start name attributes :: tokens =>
    build ({ name, attributes, before := nodes } :: stack) [] tokens
  | stack, nodes, .empty name attributes :: tokens =>
    build stack (nodes ++ [.element name attributes []]) tokens
  | [], _, .finish _ :: _ => none
  | element :: stack, nodes, .finish name :: tokens =>
    if name = element.name then
      build stack (element.before ++ [.element element.name element.attributes nodes]) tokens
    else none
  | stack, nodes, .instruction _ :: tokens => build stack nodes tokens

/-- A document ends outside every tag, with its last character data. -/
def read (text : List Char) : Option (List Node) :=
  match lex (.text []) text with
  | some (tokens, .text rest) => build [] [] (tokens ++ [.text rest])
  | _ => none

/-! The elements alone. -/

mutual

def Node.skeleton : Node → List Node
  | .text _ => []
  | .element name attributes children => [.element name attributes (skeleton children)]

def skeleton : List Node → List Node
  | [] => []
  | node :: nodes => node.skeleton ++ skeleton nodes

end

/-- The character data directly between the nodes. -/
def characters : List Node → List Char
  | [] => []
  | .text content :: nodes => content ++ characters nodes
  | .element _ _ _ :: nodes => characters nodes

/-- What is inside the first element of a name. -/
def child (name : List Char) (nodes : List Node) : Option (List Node) :=
  nodes.findSome? fun
    | .element other _ children => if other = name then some children else none
    | .text _ => none

/-- The character data of the element at a path of names. -/
def textAt : List (List Char) → List Node → Option (List Char)
  | [], nodes => some (characters nodes)
  | step :: path, nodes => (child step nodes).bind (textAt path)

end Xml
