import Mathlib.Data.List.DropRight
import Mathlib.Data.List.Forall2
import Scaffold.Proofs.Python.ModuleTree

namespace Scaffold.Python

inductive Parameter where
  | named (name : String) (typed defaulted : Bool)
  | tuple (defaulted : Bool)
  | slash
  | star
  | variadic (double annotated : Bool)
  | trivia
  deriving DecidableEq, Repr

namespace Parameter

def name? : Parameter → Option String
  | named name _ _ => some name
  | _ => none

def isStarLike : Parameter → Bool
  | star | variadic _ _ => true
  | _ => false

def entry : Parameter → Entry
  | named name _ _ => .name name
  | slash => .barrier
  | star | variadic _ _ => .stop
  | tuple _ | trivia => .unnamed

end Parameter

/-- What a node in a list of parameters is. One that is made of several parts begins with its name, or with the stars
and the name that it gives a type to. -/
inductive Declares (src : Source) : Tree → Parameter → Prop
  | plain {t : Tree} {name : String} : t.kind = .identifier → textOf src t = name →
      Declares src t (.named name false false)
  | typed {t n : Tree} {rest : List Tree} {name : String} : t.kind = .typedParameter → t.children = n :: rest →
      n.info.named = true → n.kind = .identifier → textOf src n = name → Declares src t (.named name true false)
  | defaulted {t n : Tree} {rest : List Tree} {name : String} : t.kind = .defaultParameter → t.children = n :: rest →
      n.info.field = some "name" → n.kind = .identifier → textOf src n = name →
      Declares src t (.named name false true)
  | typedDefaulted {t n : Tree} {rest : List Tree} {name : String} : t.kind = .typedDefaultParameter →
      t.children = n :: rest → n.info.field = some "name" → n.kind = .identifier → textOf src n = name →
      Declares src t (.named name true true)
  | tuple {t : Tree} : t.kind = .tuplePattern → Declares src t (.tuple false)
  | defaultedTuple {t n : Tree} {rest : List Tree} : t.kind = .defaultParameter → t.children = n :: rest →
      n.info.field = some "name" → n.kind = .tuplePattern → Declares src t (.tuple true)
  | slash {t : Tree} : t.kind = .positionalSeparator → Declares src t .slash
  | star {t : Tree} : t.kind = .keywordSeparator → Declares src t .star
  | arguments {t : Tree} : t.kind = .listSplatPattern → Declares src t (.variadic false false)
  | keywords {t : Tree} : t.kind = .dictionarySplatPattern → Declares src t (.variadic true false)
  | typedArguments {t n : Tree} {rest : List Tree} : t.kind = .typedParameter → t.children = n :: rest →
      n.info.named = true → n.kind = .listSplatPattern → Declares src t (.variadic false true)
  | typedKeywords {t n : Tree} {rest : List Tree} : t.kind = .typedParameter → t.children = n :: rest →
      n.info.named = true → n.kind = .dictionarySplatPattern → Declares src t (.variadic true true)
  | comment {t : Tree} : t.kind = .comment → Declares src t .trivia
  | continued {t : Tree} : t.kind = .lineContinuation → Declares src t .trivia

theorem namedChildren_head? {t n : Tree} {rest : List Tree} (h : t.children = n :: rest) (hn : n.info.named = true) :
    t.namedChildren.head? = some n := by
  simp [Syntax.Tree.namedChildren, h, hn]

theorem childByField?_first {t n : Tree} {rest : List Tree} {field : String} (h : t.children = n :: rest)
    (hn : n.info.field = some field) : t.childByField? field = some n := by
  rw [Syntax.Tree.childByField?, h, List.find?_cons_of_pos (by simp [hn])]

theorem Declares.entryOf_eq {src : Source} {t : Tree} {p : Parameter} (h : Declares src t p) :
    entryOf src t = p.entry := by
  cases h with
  | plain hk hname => rw [entryOf, hk, hname]; rfl
  | typed hk hc hnamed hn hname =>
      rw [entryOf, hk, namedChildren_head? hc hnamed, ← hname]
      exact if_pos hn
  | defaulted hk hc hf hn hname | typedDefaulted hk hc hf hn hname =>
      rw [entryOf, hk, childByField?_first hc hf, ← hname]
      exact if_pos hn
  | defaultedTuple hk hc hf hn =>
      rw [entryOf, hk, childByField?_first hc hf]
      exact (if_neg (by rw [hn]; decide)).trans (if_neg (by rw [hn]; decide))
  | typedArguments hk hc hnamed hn | typedKeywords hk hc hnamed hn =>
      rw [entryOf, hk, namedChildren_head? hc hnamed]
      exact (if_neg (by rw [hn]; decide)).trans (if_pos (by rw [hn]; rfl))
  | tuple hk | slash hk | star hk | arguments hk | keywords hk | comment hk | continued hk =>
      rw [entryOf, hk]
      rfl

/-- The names of the parameters after the last slash that stands before the first star. -/
def positionalOrKeyword (params : List Parameter) : List String :=
  ((params.takeWhile fun p => !p.isStarLike).rtakeWhile (· ≠ .slash)).filterMap Parameter.name?

theorem namesAmong_append {params : List Parameter} (h : ∀ p ∈ params, p.isStarLike = false) (found : List String)
    (es : List Entry) :
    namesAmong found (params.map Parameter.entry ++ es) =
      namesAmong (namesAmong found (params.map Parameter.entry)) es := by
  induction params generalizing found with
  | nil => rfl
  | cons p params ih =>
      rw [List.forall_mem_cons] at h
      cases p with
      | named | tuple | slash | trivia => exact ih h.2 _
      | star | variadic => cases h.1

theorem namesAmong_between {params : List Parameter} (hstar : ∀ p ∈ params, p.isStarLike = false)
    (hslash : ∀ p ∈ params, p ≠ .slash) (found : List String) :
    namesAmong found (params.map Parameter.entry) = found ++ params.filterMap Parameter.name? := by
  induction params generalizing found with
  | nil => simp [namesAmong]
  | cons p params ih =>
      rw [List.forall_mem_cons] at hstar hslash
      have htail := ih hstar.2 hslash.2
      cases p with
      | named name => exact (htail _).trans (List.append_assoc ..)
      | tuple | trivia => exact htail _
      | slash => exact absurd rfl hslash.1
      | star | variadic => cases hstar.1

theorem namesAmong_stop {params : List Parameter} (h : ∀ p ∈ params.head?, p.isStarLike = true) (found : List String) :
    namesAmong found (params.map Parameter.entry) = found := by
  cases params with
  | nil => rfl
  | cons p params =>
      have hp := h p rfl
      cases p with
      | star | variadic => rfl
      | named | tuple | slash | trivia => cases hp

/-- A list of parameters in three parts: up to the last slash, up to the first star, and what comes after it. -/
structure Parted (front middle back : List Parameter) : Prop where
  front_star : ∀ p ∈ front, p.isStarLike = false
  front_slash : ∀ p ∈ front.getLast?, p = .slash
  middle_star : ∀ p ∈ middle, p.isStarLike = false
  middle_slash : ∀ p ∈ middle, p ≠ .slash
  back_star : ∀ p ∈ back.head?, p.isStarLike = true

theorem Parted.namesAmong_eq {front middle back : List Parameter} (h : Parted front middle back) :
    namesAmong [] ((front ++ middle ++ back).map Parameter.entry) = middle.filterMap Parameter.name? := by
  have hfront : namesAmong [] (front.map Parameter.entry) = [] := by
    obtain rfl | ⟨init, p, rfl⟩ := front.eq_nil_or_concat
    · rfl
    · obtain rfl := h.front_slash p (by simp)
      rw [List.concat_eq_append, List.map_append, namesAmong_append fun q hq => h.front_star q (by simp [hq])]
      rfl
  rw [List.map_append, List.map_append, List.append_assoc, namesAmong_append h.front_star, hfront,
    namesAmong_append h.middle_star, namesAmong_between h.middle_star h.middle_slash, namesAmong_stop h.back_star,
    List.nil_append]

theorem exists_parted (params : List Parameter) : ∃ front middle back, params = front ++ middle ++ back ∧
    Parted front middle back ∧ positionalOrKeyword params = middle.filterMap Parameter.name? := by
  let shown := params.takeWhile fun p => !p.isStarLike
  have hshown : ∀ p ∈ shown, p.isStarLike = false := fun p hp => by simpa using List.mem_takeWhile_imp hp
  refine ⟨shown.rdropWhile (· ≠ .slash), shown.rtakeWhile (· ≠ .slash), params.dropWhile fun p => !p.isStarLike,
    ?_, ⟨?_, ?_, ?_, ?_, ?_⟩, rfl⟩
  · rw [List.rdropWhile_append_rtakeWhile, List.takeWhile_append_dropWhile]
  · exact fun p hp => hshown p ((List.rdropWhile_prefix _ _).subset hp)
  · intro p hp
    obtain ⟨hne, rfl⟩ := List.mem_getLast?_eq_getLast hp
    simpa using List.rdropWhile_last_not _ shown hne
  · exact fun p hp => hshown p ((List.rtakeWhile_suffix _ _).subset hp)
  · exact fun p hp => by simpa using List.mem_rtakeWhile_imp hp
  · intro p hp
    have hfirst := List.head?_dropWhile_not (fun p : Parameter => !p.isStarLike) params
    rw [Option.mem_def.mp hp] at hfirst
    simpa using hfirst

theorem namesAmong_eq_positionalOrKeyword (params : List Parameter) :
    namesAmong [] (params.map Parameter.entry) = positionalOrKeyword params := by
  obtain ⟨front, middle, back, rfl, hparted, heq⟩ := exists_parted params
  rw [heq, hparted.namesAmong_eq]

theorem namesAmong_filter (found : List String) (params : List Parameter) :
    namesAmong found ((params.filter (· ≠ .trivia)).map Parameter.entry) =
      namesAmong found (params.map Parameter.entry) := by
  induction params generalizing found with
  | nil => rfl
  | cons p params ih =>
      cases p with
      | star | variadic => rfl
      | named | tuple | slash | trivia => exact ih _

structure Argument where
  name : String
  typed : Bool
  defaulted : Bool
  deriving DecidableEq, Repr

def Argument.parameter (a : Argument) : Parameter := .named a.name a.typed a.defaulted

/-- The parameters of a function by the ways in which they can be given. Those that take what is left over by position
or by name have a type or none, if they are there. -/
structure Arguments where
  positionalOnly : List Argument
  regular : List Argument
  variadic : Option Bool
  keywordOnly : List Argument
  keywords : Option Bool
  deriving DecidableEq, Repr

namespace Arguments

def front (a : Arguments) : List Parameter :=
  if a.positionalOnly = [] then [] else a.positionalOnly.map Argument.parameter ++ [.slash]

def back (a : Arguments) : List Parameter :=
  (match a.variadic with
    | some annotated => [.variadic false annotated]
    | none => if a.keywordOnly = [] then [] else [.star]) ++
  a.keywordOnly.map Argument.parameter ++ (a.keywords.map (.variadic true)).toList

def parameters (a : Arguments) : List Parameter := a.front ++ a.regular.map Argument.parameter ++ a.back

theorem parted (a : Arguments) : Parted a.front (a.regular.map Argument.parameter) a.back := by
  refine ⟨?_, ?_, ?_, ?_, ?_⟩
  · rw [front]
    split
    · simp
    · simp [or_imp, forall_and, Argument.parameter, Parameter.isStarLike]
  · rw [front]
    split <;> simp
  · simp [Argument.parameter, Parameter.isStarLike]
  · simp [Argument.parameter]
  · rcases a with ⟨_, _, variadic, keywordOnly, keywords⟩
    cases variadic <;> cases keywordOnly <;> cases keywords <;> simp [back, Parameter.isStarLike]

theorem namesAmong_parameters (a : Arguments) :
    namesAmong [] (a.parameters.map Parameter.entry) = a.regular.map (·.name) := by
  rw [parameters, a.parted.namesAmong_eq, List.filterMap_map]
  exact List.filterMap_eq_map_iff_forall_eq_some.mpr fun _ _ => rfl

end Arguments

/-- A function's parameters that can be given by position and by name are those after the last slash before the first
star, and the receiver is not among them. If the parameters stand as the language wants it, they are the regular
ones. -/
theorem parametersOf_eq_positionalOrKeyword (src : Source) {t ps : Tree} {params : List Parameter}
    (hps : t.childByField? "parameters" = some ps) (hparams : List.Forall₂ (Declares src) ps.namedChildren params) :
    parametersOf src t = (positionalOrKeyword params).filter (· ≠ "self") ∧
      (∀ a : Arguments, params.filter (· ≠ .trivia) = a.parameters →
        parametersOf src t = (a.regular.map (·.name)).filter (· ≠ "self")) ∧
      "self" ∉ parametersOf src t := by
  have hentries : ps.namedChildren.map (entryOf src) = params.map Parameter.entry := by
    rw [← List.forall₂_eq_eq_eq, List.forall₂_map_left_iff, List.forall₂_map_right_iff]
    exact hparams.imp fun _ _ h => h.entryOf_eq
  have hread : parametersOf src t = (namesAmong [] (params.map Parameter.entry)).filter (· ≠ "self") := by
    rw [parametersOf, hps, ← hentries]
    rfl
  refine ⟨?_, fun a ha => ?_, ?_⟩
  · rw [hread, namesAmong_eq_positionalOrKeyword]
  · rw [hread, ← namesAmong_filter, ha, a.namesAmong_parameters]
  · rw [hread]
    simp

def parsedNode (k : Kind) (field : Option String) (start stop : Nat) (cs : List Tree) : Tree :=
  .node ⟨k, k.isNamed, field, .parsed, false, ⟨start, stop, 0⟩⟩ cs

@[simp]
theorem parsedNode_kind (k : Kind) (field : Option String) (start stop : Nat) (cs : List Tree) :
    (parsedNode k field start stop cs).kind = k :=
  rfl

@[simp]
theorem parsedNode_children (k : Kind) (field : Option String) (start stop : Nat) (cs : List Tree) :
    (parsedNode k field start stop cs).children = cs :=
  rfl

namespace Parameters

def sampleText : String := "def f(p, /, self, a: T, # c\n b=1, *r: U, k): x"

def sampleList : Tree :=
  parsedNode .parameters (some "parameters") 5 43 [
    parsedNode (.symbol "(") none 5 6 [],
    parsedNode .identifier none 6 7 [],
    parsedNode (.symbol ",") none 7 8 [],
    parsedNode .positionalSeparator none 9 10 [parsedNode (.symbol "/") none 9 10 []],
    parsedNode (.symbol ",") none 10 11 [],
    parsedNode .identifier none 12 16 [],
    parsedNode (.symbol ",") none 16 17 [],
    parsedNode .typedParameter none 18 22 [
      parsedNode .identifier none 18 19 [],
      parsedNode (.symbol ":") none 19 20 [],
      parsedNode .type (some "type") 21 22 [parsedNode .identifier none 21 22 []]],
    parsedNode (.symbol ",") none 22 23 [],
    parsedNode .comment none 24 27 [],
    parsedNode .defaultParameter none 29 32 [
      parsedNode .identifier (some "name") 29 30 [],
      parsedNode (.symbol "=") none 30 31 [],
      parsedNode .integer (some "value") 31 32 []],
    parsedNode (.symbol ",") none 32 33 [],
    parsedNode .typedParameter none 34 39 [
      parsedNode .listSplatPattern none 34 36 [
        parsedNode (.symbol "*") none 34 35 [],
        parsedNode .identifier none 35 36 []],
      parsedNode (.symbol ":") none 36 37 [],
      parsedNode .type (some "type") 38 39 [parsedNode .identifier none 38 39 []]],
    parsedNode (.symbol ",") none 39 40 [],
    parsedNode .identifier none 41 42 [],
    parsedNode (.symbol ")") none 42 43 []]

def sampleFunction : Tree :=
  parsedNode .functionDefinition none 0 46 [
    parsedNode (.symbol "def") none 0 3 [],
    parsedNode .identifier (some "name") 4 5 [],
    sampleList,
    parsedNode (.symbol ":") none 43 44 [],
    parsedNode .block (some "body") 45 46 [
      parsedNode .expressionStatement none 45 46 [parsedNode .identifier none 45 46 []]]]

/-- A parameter before a slash, the receiver, two regular parameters with a comment between them, and one that is given
by name only. -/
theorem parametersOf_sampleFunction :
    sampleFunction.childByField? "parameters" = some sampleList ∧
      List.Forall₂ (Declares (.ofString sampleText)) sampleList.namedChildren
        [.named "p" false false, .slash, .named "self" false false, .named "a" true false, .trivia,
          .named "b" false true, .variadic false true, .named "k" false false] ∧
      parametersOf (.ofString sampleText) sampleFunction = ["a", "b"] := by
  have hparams : List.Forall₂ (Declares (.ofString sampleText)) sampleList.namedChildren
      [.named "p" false false, .slash, .named "self" false false, .named "a" true false, .trivia,
        .named "b" false true, .variadic false true, .named "k" false false] := by
    refine .cons (.plain rfl (by decide +kernel)) (.cons (.slash rfl) (.cons (.plain rfl (by decide +kernel))
      (.cons (.typed rfl rfl rfl rfl (by decide +kernel)) (.cons (.comment rfl)
        (.cons (.defaulted rfl rfl rfl rfl (by decide +kernel)) (.cons (.typedArguments rfl rfl rfl rfl)
          (.cons (.plain rfl (by decide +kernel)) .nil)))))))
  refine ⟨rfl, hparams, ?_⟩
  exact (parametersOf_eq_positionalOrKeyword _ rfl hparams).2.1
    ⟨[⟨"p", false, false⟩], [⟨"self", false, false⟩, ⟨"a", true, false⟩, ⟨"b", false, true⟩], some true,
      [⟨"k", false, false⟩], none⟩ (by decide)

end Parameters

end Scaffold.Python
