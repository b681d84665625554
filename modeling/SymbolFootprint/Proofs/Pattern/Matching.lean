import Mathlib.Data.List.Basic
import SymbolFootprint.Pattern.Expr

/-!
What fits an expression, and what is found by reading a text from left to right.

Which pieces of a text fit an expression is told by the parts of the expression (`Expr.Fits`); the
looks judge a piece by the characters before and after it. Reading a character leaves the
expressions that `Expr.step` lists: a piece that begins with the character fits exactly if what is
left of it fits one of these (`Expr.fits_cons_iff`). So a text is found to fit exactly if some piece
of it does (`Expr.foundIn_iff`), provided that no repetition asks for more pieces than it allows
(`Expr.IsSatisfiable`).
-/

namespace SymbolFootprint.Pattern

/-- Pieces of texts, with the characters before and after them. -/
abbrev Pieces := Option Char → List Char → Option Char → Prop

namespace Pieces

/-- A piece of the first kind, and right behind it one of the second kind. -/
def seq (first second : Pieces) : Pieces := fun before piece after =>
  ∃ front back, piece = front ++ back ∧ first before front (back.head?.or after) ∧
    second (front.getLast?.or before) back after

/-- As many pieces in a row as told. -/
def power (pieces : Pieces) : Nat → Pieces
  | 0 => fun _ piece _ => piece = []
  | count + 1 => pieces.seq (pieces.power count)

/-- What is left of the pieces that begin with the character, once it has been read. -/
def afterChar (pieces : Pieces) (before : Option Char) (c : Char) : Pieces := fun _ piece after =>
  pieces before (c :: piece) after

variable {first second pieces : Pieces} {before after : Option Char} {c : Char}
  {piece rest : List Char}

theorem last_cons (before : Option Char) (c : Char) (piece : List Char) :
    (c :: piece).getLast?.or before = piece.getLast?.or (some c) := by
  rw [List.getLast?_cons]
  cases piece.getLast? <;> rfl

theorem seq_congr {other : Pieces} (same : ∀ piece after,
    first before piece after ↔ other before piece after) :
    first.seq second before piece after ↔ other.seq second before piece after := by
  simp only [seq, same]

/-- A choice for the second piece can be made for the whole. -/
theorem seq_exists_iff {kinds : Nat → Pieces} {allowed : Nat → Prop} :
    first.seq (fun before piece after => ∃ kind, allowed kind ∧ kinds kind before piece after)
        before piece after ↔
      ∃ kind, allowed kind ∧ first.seq (kinds kind) before piece after := by
  constructor
  · rintro ⟨front, back, whole, fits, kind, isAllowed, fitsBehind⟩
    exact ⟨kind, isAllowed, front, back, whole, fits, fitsBehind⟩
  · rintro ⟨kind, isAllowed, front, back, whole, fits, fitsBehind⟩
    exact ⟨front, back, whole, fits, kind, isAllowed, fitsBehind⟩

theorem seq_nil_iff : first.seq second before [] after ↔
    first before [] after ∧ second before [] after := by
  constructor
  · rintro ⟨front, back, whole, fits, fitsBehind⟩
    obtain ⟨rfl, rfl⟩ := List.append_eq_nil_iff.mp whole.symm
    exact ⟨fits, fitsBehind⟩
  · rintro ⟨fits, fitsBehind⟩
    exact ⟨[], [], rfl, fits, fitsBehind⟩

theorem seq_cons_iff : first.seq second before (c :: rest) after ↔
    (first.afterChar before c).seq second (some c) rest after ∨
      first before [] (some c) ∧ second before (c :: rest) after := by
  constructor
  · rintro ⟨front, back, whole, fits, fitsBehind⟩
    cases front with
    | nil =>
      cases whole
      exact .inr ⟨fits, fitsBehind⟩
    | cons d front =>
      cases whole
      rw [last_cons] at fitsBehind
      exact .inl ⟨front, back, rfl, fits, fitsBehind⟩
  · rintro (⟨front, back, rfl, fits, fitsBehind⟩ | ⟨fits, fitsBehind⟩)
    · rw [← last_cons before] at fitsBehind
      exact ⟨c :: front, back, rfl, fits, fitsBehind⟩
    · exact ⟨[], c :: rest, rfl, fits, fitsBehind⟩

theorem power_nil_iff {count : Nat} :
    pieces.power count before [] after ↔ count = 0 ∨ pieces before [] after := by
  induction count with
  | zero => simp [power]
  | succ count inductionHypothesis =>
    rw [power, seq_nil_iff, inductionHypothesis]
    simp only [Nat.add_one_ne_zero, false_or, and_iff_left_iff_imp]
    exact .inr

/-- Of the pieces in a row, the first one that is not empty begins with the character. -/
theorem power_cons_iff {count : Nat} : pieces.power count before (c :: rest) after ↔
    ∃ fewer < count, (fewer + 1 = count ∨ pieces before [] (some c)) ∧
      (pieces.afterChar before c).seq (pieces.power fewer) (some c) rest after := by
  induction count with
  | zero => simp [power]
  | succ count inductionHypothesis =>
    rw [power, seq_cons_iff, inductionHypothesis]
    constructor
    · rintro (fits | ⟨empty, fewer, less, _, fits⟩)
      · exact ⟨count, Nat.lt_succ_self count, .inl rfl, fits⟩
      · exact ⟨fewer, Nat.lt_succ_of_lt less, .inr empty, fits⟩
    · rintro ⟨fewer, less, last | empty, fits⟩
      · cases last
        exact .inl fits
      · rcases Nat.lt_succ_iff_lt_or_eq.mp less with less | rfl
        · exact .inr ⟨empty, fewer, less, .inr empty, fits⟩
        · exact .inl fits

end Pieces

namespace Expr

def Allows (least : Nat) (most : Option Nat) (count : Nat) : Prop :=
  least ≤ count ∧ ∀ bound ∈ most, count ≤ bound

/-- The pieces that fit the expression. -/
def Fits : Expr → Pieces
  | .empty => fun _ piece _ => piece = []
  | .look test => fun before piece after => piece = [] ∧ test.holds before after = true
  | .oneOf set => fun _ piece _ => ∃ c, piece = [c] ∧ set.contains c = true
  | .seq first second => first.Fits.seq second.Fits
  | .either first second => fun before piece after =>
    first.Fits before piece after ∨ second.Fits before piece after
  | .repeated expr least most => fun before piece after =>
    ∃ count, Allows least most count ∧ expr.Fits.power count before piece after

/-- No repetition asks for more pieces than it allows. -/
def IsSatisfiable : Expr → Prop
  | .empty => True
  | .look _ => True
  | .oneOf _ => True
  | .seq first second => first.IsSatisfiable ∧ second.IsSatisfiable
  | .either first second => first.IsSatisfiable ∧ second.IsSatisfiable
  | .repeated expr least most => expr.IsSatisfiable ∧ ∀ bound ∈ most, least ≤ bound

variable {expr second : Expr} {before after : Option Char} {c : Char} {piece rest : List Char}

theorem fits_nil_iff (satisfiable : expr.IsSatisfiable) :
    expr.Fits before [] after ↔ expr.fitsEmpty before after = true := by
  induction expr generalizing before after with
  | empty => simp [Fits, fitsEmpty]
  | look test => simp [Fits, fitsEmpty]
  | oneOf set => simp [Fits, fitsEmpty]
  | seq first second firstHypothesis secondHypothesis =>
    rw [Fits, Pieces.seq_nil_iff, firstHypothesis satisfiable.1, secondHypothesis satisfiable.2,
      fitsEmpty, Bool.and_eq_true]
  | either first second firstHypothesis secondHypothesis =>
    simp only [Fits, firstHypothesis satisfiable.1, secondHypothesis satisfiable.2, fitsEmpty,
      Bool.or_eq_true]
  | repeated expr least most inductionHypothesis =>
    rw [fitsEmpty, Bool.or_eq_true, decide_eq_true_eq, ← inductionHypothesis satisfiable.1]
    simp only [Fits, Pieces.power_nil_iff]
    constructor
    · rintro ⟨count, ⟨enough, _⟩, rfl | fits⟩
      · exact .inl (Nat.le_zero.mp enough)
      · exact .inr fits
    · rintro (rfl | fits)
      · exact ⟨0, ⟨Nat.le_refl 0, fun bound _ => Nat.zero_le bound⟩, .inl rfl⟩
      · exact ⟨least, ⟨Nat.le_refl least, satisfiable.2⟩, .inr fits⟩

theorem fits_followedBy_iff :
    (expr.followedBy second).Fits before piece after ↔
      expr.Fits.seq second.Fits before piece after := by
  rw [followedBy]
  split
  · next isEmpty =>
    subst isEmpty
    constructor
    · exact fun fits => ⟨[], piece, rfl, rfl, fits⟩
    · rintro ⟨front, back, rfl, rfl, fits⟩
      exact fits
  · rfl

def FitsAny (nexts : List Expr) : Pieces := fun before piece after =>
  ∃ next ∈ nexts, next.Fits before piece after

theorem fitsAny_followedBy_iff {nexts : List Expr} :
    FitsAny (nexts.map (·.followedBy second)) before piece after ↔
      (FitsAny nexts).seq second.Fits before piece after := by
  simp only [FitsAny, List.mem_map, exists_exists_and_eq_and, fits_followedBy_iff, Pieces.seq]
  constructor
  · rintro ⟨next, membership, front, back, whole, fits, fitsBehind⟩
    exact ⟨front, back, whole, ⟨next, membership, fits⟩, fitsBehind⟩
  · rintro ⟨front, back, whole, ⟨next, membership, fits⟩, fitsBehind⟩
    exact ⟨next, membership, front, back, whole, fits, fitsBehind⟩

/-- A number of pieces is allowed if the number behind the first one is: that one piece is taken
off, and where pieces may be empty as many more as are needed. -/
theorem exists_allows_iff {least fewer : Nat} {most : Option Nat} {mayBeEmpty : Bool}
    (satisfiable : ∀ bound ∈ most, least ≤ bound) :
    (∃ count, Allows least most count ∧ fewer < count ∧
        (fewer + 1 = count ∨ mayBeEmpty = true)) ↔
      most ≠ some 0 ∧
        Allows (if mayBeEmpty then 0 else least - 1) (most.map (· - 1)) fewer := by
  constructor
  · rintro ⟨count, ⟨enough, bounded⟩, less, last⟩
    refine ⟨?_, ?_, ?_⟩
    · rintro rfl
      exact absurd (bounded 0 rfl) (by omega)
    · split <;> grind
    · intro bound isBound
      obtain ⟨own, isOwn, rfl⟩ := Option.map_eq_some_iff.mp isBound
      have := bounded own isOwn
      omega
  · rintro ⟨positive, enough, bounded⟩
    refine ⟨max (fewer + 1) least, ⟨by omega, ?_⟩, by omega, ?_⟩
    · intro bound isBound
      have below := bounded (bound - 1) (Option.mem_map_of_mem _ isBound)
      have least := satisfiable bound isBound
      have : bound ≠ 0 := by
        rintro rfl
        exact positive isBound
      omega
    · cases mayBeEmpty with
      | true => exact .inr rfl
      | false =>
        rw [if_neg (by decide)] at enough
        exact .inl (by omega)

/-- A step reads the character off the pieces that fit. -/
theorem fits_cons_iff (satisfiable : expr.IsSatisfiable) :
    expr.Fits before (c :: rest) after ↔
      FitsAny (expr.step before c) (some c) rest after := by
  induction expr generalizing rest after with
  | empty => simp [Fits, FitsAny, step]
  | look test => simp [Fits, FitsAny, step]
  | oneOf set =>
    rw [step]
    split
    · next inside => simp [Fits, FitsAny, inside]
    · next outside => simp [Fits, FitsAny, outside]
  | seq first second firstHypothesis secondHypothesis =>
    have reads : (first.Fits.afterChar before c).seq second.Fits (some c) rest after ↔
        FitsAny ((first.step before c).map (·.followedBy second)) (some c) rest after := by
      rw [fitsAny_followedBy_iff]
      exact Pieces.seq_congr fun _ _ => firstHypothesis satisfiable.1
    rw [Fits, Pieces.seq_cons_iff, reads, fits_nil_iff satisfiable.1,
      secondHypothesis satisfiable.2, step]
    simp only [FitsAny, List.mem_append, or_and_right, exists_or]
    split
    · next isEmpty => simp [isEmpty]
    · next notEmpty => simp [notEmpty]
  | either first second firstHypothesis secondHypothesis =>
    simp only [Fits, firstHypothesis satisfiable.1, secondHypothesis satisfiable.2, step,
      FitsAny, List.mem_append, or_and_right, exists_or]
  | repeated expr least most inductionHypothesis =>
    have reads (fewer : Nat) :
        (expr.Fits.afterChar before c).seq (expr.Fits.power fewer) (some c) rest after ↔
          (FitsAny (expr.step before c)).seq (expr.Fits.power fewer) (some c) rest after :=
      Pieces.seq_congr fun _ _ => inductionHypothesis satisfiable.1
    calc
      Fits (.repeated expr least most) before (c :: rest) after ↔
          ∃ fewer, (∃ count, Allows least most count ∧ fewer < count ∧
              (fewer + 1 = count ∨ expr.fitsEmpty before (some c) = true)) ∧
            (FitsAny (expr.step before c)).seq (expr.Fits.power fewer) (some c) rest after := by
        simp only [Fits, Pieces.power_cons_iff, reads, fits_nil_iff satisfiable.1]
        constructor
        · rintro ⟨count, allowed, fewer, less, last, fits⟩
          exact ⟨fewer, ⟨count, allowed, less, last⟩, fits⟩
        · rintro ⟨fewer, ⟨count, allowed, less, last⟩, fits⟩
          exact ⟨count, allowed, fewer, less, last, fits⟩
      _ ↔ FitsAny (step before c (.repeated expr least most)) (some c) rest after := by
        simp only [exists_allows_iff satisfiable.2]
        by_cases none : most = some 0
        · simp [FitsAny, step, none]
        · rw [step, if_neg none, fitsAny_followedBy_iff]
          simp only [Fits, Pieces.seq_exists_iff, ne_eq, none, not_false_eq_true, true_and]

theorem IsSatisfiable.followedBy (satisfiable : expr.IsSatisfiable)
    (behind : second.IsSatisfiable) : (expr.followedBy second).IsSatisfiable := by
  rw [Expr.followedBy]
  split
  · exact behind
  · exact ⟨satisfiable, behind⟩

theorem IsSatisfiable.of_mem_step (satisfiable : expr.IsSatisfiable) {next : Expr}
    (membership : next ∈ expr.step before c) : next.IsSatisfiable := by
  induction expr generalizing next with
  | empty => cases membership
  | look test => cases membership
  | oneOf set =>
    rw [step] at membership
    split at membership
    · cases List.mem_singleton.mp membership
      trivial
    · cases membership
  | seq first second firstHypothesis secondHypothesis =>
    rw [step, List.mem_append] at membership
    rcases membership with inFirst | inSecond
    · obtain ⟨left, isNext, rfl⟩ := List.mem_map.mp inFirst
      exact (firstHypothesis satisfiable.1 isNext).followedBy satisfiable.2
    · split at inSecond
      · exact secondHypothesis satisfiable.2 inSecond
      · cases inSecond
  | either first second firstHypothesis secondHypothesis =>
    rw [step, List.mem_append] at membership
    rcases membership with inFirst | inSecond
    · exact firstHypothesis satisfiable.1 inFirst
    · exact secondHypothesis satisfiable.2 inSecond
  | repeated expr least most inductionHypothesis =>
    rw [step] at membership
    split at membership
    · cases membership
    · obtain ⟨left, isNext, rfl⟩ := List.mem_map.mp membership
      apply (inductionHypothesis satisfiable.1 isNext).followedBy
      refine ⟨satisfiable.1, ?_⟩
      intro bound isBound
      obtain ⟨own, isOwn, rfl⟩ := Option.map_eq_some_iff.mp isBound
      have := satisfiable.2 own isOwn
      split <;> omega

def FitsFront (expr : Expr) (before : Option Char) (text : List Char) : Prop :=
  ∃ piece back, text = piece ++ back ∧ expr.Fits before piece back.head?

def FitsSomewhere (expr : Expr) (before : Option Char) (text : List Char) : Prop :=
  ∃ front rest, text = front ++ rest ∧ expr.FitsFront (front.getLast?.or before) rest

theorem fitsFront_nil_iff (satisfiable : expr.IsSatisfiable) :
    expr.FitsFront before [] ↔ expr.fitsEmpty before none = true := by
  rw [← fits_nil_iff satisfiable]
  constructor
  · rintro ⟨piece, back, whole, fits⟩
    obtain ⟨rfl, rfl⟩ := List.append_eq_nil_iff.mp whole.symm
    exact fits
  · exact fun fits => ⟨[], [], rfl, fits⟩

theorem fitsFront_cons_iff (satisfiable : expr.IsSatisfiable) :
    expr.FitsFront before (c :: rest) ↔
      expr.fitsEmpty before (some c) = true ∨
        ∃ next ∈ expr.step before c, next.FitsFront (some c) rest := by
  rw [← fits_nil_iff satisfiable]
  constructor
  · rintro ⟨piece, back, whole, fits⟩
    cases piece with
    | nil =>
      cases whole
      exact .inl fits
    | cons d piece =>
      cases whole
      obtain ⟨next, isNext, left⟩ := (fits_cons_iff satisfiable).mp fits
      exact .inr ⟨next, isNext, piece, back, rfl, left⟩
  · rintro (fits | ⟨next, isNext, piece, back, rfl, left⟩)
    · exact ⟨[], c :: rest, rfl, fits⟩
    · exact ⟨c :: piece, back, rfl, (fits_cons_iff satisfiable).mpr ⟨next, isNext, left⟩⟩

theorem fitsSomewhere_nil_iff : expr.FitsSomewhere before [] ↔ expr.FitsFront before [] := by
  constructor
  · rintro ⟨front, rest, whole, fits⟩
    obtain ⟨rfl, rfl⟩ := List.append_eq_nil_iff.mp whole.symm
    exact fits
  · exact fun fits => ⟨[], [], rfl, fits⟩

theorem fitsSomewhere_cons_iff : expr.FitsSomewhere before (c :: rest) ↔
    expr.FitsFront before (c :: rest) ∨ expr.FitsSomewhere (some c) rest := by
  constructor
  · rintro ⟨front, back, whole, fits⟩
    cases front with
    | nil =>
      cases whole
      exact .inl fits
    | cons d front =>
      cases whole
      rw [Pieces.last_cons] at fits
      exact .inr ⟨front, back, rfl, fits⟩
  · rintro (fits | ⟨front, back, rfl, fits⟩)
    · exact ⟨[], c :: rest, rfl, fits⟩
    · rw [← Pieces.last_cons before] at fits
      exact ⟨c :: front, back, rfl, fits⟩

/-- The expressions in the list stand for the pieces that were begun before this place. -/
theorem found_iff (satisfiable : expr.IsSatisfiable) {active : List Expr}
    (allSatisfiable : ∀ next ∈ active, next.IsSatisfiable) {text : List Char} :
    expr.found before active text = true ↔
      (∃ next ∈ active, next.FitsFront before text) ∨ expr.FitsSomewhere before text := by
  induction text generalizing before active with
  | nil =>
    have empty : (∃ next ∈ active, next.FitsFront before []) ↔
        ∃ next ∈ active, next.fitsEmpty before none = true :=
      exists_congr fun next => and_congr_right fun membership =>
        fitsFront_nil_iff (allSatisfiable next membership)
    rw [found, List.any_cons, Bool.or_eq_true, List.any_eq_true, empty, fitsSomewhere_nil_iff,
      fitsFront_nil_iff satisfiable, or_comm]
  | cons c rest inductionHypothesis =>
    have here : ∀ next ∈ expr :: active, next.IsSatisfiable :=
      List.forall_mem_cons.mpr ⟨satisfiable, allSatisfiable⟩
    have stepped : ∀ next ∈ ((expr :: active).flatMap (·.step before c)).eraseDups,
        next.IsSatisfiable := by
      intro next membership
      obtain ⟨source, isHere, isNext⟩ := List.mem_flatMap.mp (List.mem_eraseDups.mp membership)
      exact (here source isHere).of_mem_step isNext
    have begins : (∃ next ∈ expr :: active, next.FitsFront before (c :: rest)) ↔
        (expr :: active).any (·.fitsEmpty before (some c)) = true ∨
          ∃ next ∈ ((expr :: active).flatMap (·.step before c)).eraseDups,
            next.FitsFront (some c) rest := by
      simp only [List.any_eq_true, List.mem_eraseDups, List.mem_flatMap]
      constructor
      · rintro ⟨source, isHere, fits⟩
        rcases (fitsFront_cons_iff (here source isHere)).mp fits with empty | ⟨next, isNext, left⟩
        · exact .inl ⟨source, isHere, empty⟩
        · exact .inr ⟨next, ⟨source, isHere, isNext⟩, left⟩
      · rintro (⟨source, isHere, empty⟩ | ⟨next, ⟨source, isHere, isNext⟩, left⟩)
        · exact ⟨source, isHere, (fitsFront_cons_iff (here source isHere)).mpr (.inl empty)⟩
        · exact ⟨source, isHere,
            (fitsFront_cons_iff (here source isHere)).mpr (.inr ⟨next, isNext, left⟩)⟩
    rw [found, Bool.or_eq_true, inductionHypothesis stepped, ← or_assoc, ← begins,
      List.exists_mem_cons_iff, fitsSomewhere_cons_iff, ← or_assoc,
      or_comm (b := ∃ next ∈ active, _)]

theorem foundIn_iff (satisfiable : expr.IsSatisfiable) {text : List Char} :
    expr.foundIn text = true ↔
      ∃ front piece back, text = front ++ (piece ++ back) ∧
        expr.Fits front.getLast? piece back.head? := by
  rw [foundIn, found_iff satisfiable (List.forall_mem_nil _)]
  constructor
  · rintro (⟨next, membership, _⟩ | ⟨front, _, rfl, piece, back, rfl, fits⟩)
    · cases membership
    · rw [Option.or_none] at fits
      exact ⟨front, piece, back, rfl, fits⟩
  · rintro ⟨front, piece, back, rfl, fits⟩
    rw [← Option.or_none (o := front.getLast?)] at fits
    exact .inr ⟨front, piece ++ back, rfl, piece, back, rfl, fits⟩

end Expr

end SymbolFootprint.Pattern
