import Mathlib.Data.List.TakeWhile
import PackageCoverage.Report.Style

/-!
# Reading painted text

A terminal takes a text for escape sequences and characters that it shows.  If the sequences come
in pairs, one that starts a style and one that takes it back, then the text between the two of a
pair is a span.

* **Tokens.**  Every sequence starts with the escape character, so a text without that character
  is shown as it is (`Style.tokens_append`).
* **Pieces.**  A text can be put together from pieces, some of which are painted.  It is read as
  these pieces again (`Style.tokens_join`), so it shows what it shows without colour
  (`Style.shown_join`), it has two sequences for each painted piece
  (`Style.length_sequences_join`), and the painted pieces are its spans
  (`Style.tokens_join_eq_spans`).
-/

namespace PackageCoverage.Style

/-! ## Escape sequences -/

/-- The character that an escape sequence starts with. -/
def escape : Char := '\x1b'

/-- The digits of the escape sequence that a text starts with, and the text behind it. -/
def sequence? : List Char → Option (List Char × List Char)
  | '\x1b' :: '[' :: rest =>
      if rest.takeWhile Char.isDigit = [] then none
      else match rest.dropWhile Char.isDigit with
        | 'm' :: behind => some (rest.takeWhile Char.isDigit, behind)
        | _ => none
  | _ => none

/-- An escape sequence is the escape character, a bracket, digits and an `m`. -/
theorem sequence?_eq_some_iff {text digits behind : List Char} :
    sequence? text = some (digits, behind) ↔
      text = escape :: '[' :: digits ++ 'm' :: behind ∧ digits ≠ [] ∧
        ∀ c ∈ digits, c.isDigit = true := by
  constructor
  · intro hsequence
    unfold sequence? at hsequence
    -- the reader wants an opening, then digits, then the end
    split at hsequence
    case h_1 rest =>
      split at hsequence
      · cases hsequence
      next hdigits =>
        split at hsequence
        · next behind' hbehind =>
          obtain ⟨rfl, rfl⟩ := Prod.mk.inj (Option.some.inj hsequence)
          refine ⟨?_, hdigits, fun c hc => List.mem_takeWhile_imp hc⟩
          rw [List.cons_append, List.cons_append, ← hbehind, List.takeWhile_append_dropWhile]
          rfl
        · cases hsequence
    · cases hsequence
  · rintro ⟨rfl, hne, hdigits⟩
    have htake : (digits ++ 'm' :: behind).takeWhile Char.isDigit = digits := by
      rw [List.takeWhile_append_of_pos hdigits, List.takeWhile_cons_of_neg (by decide),
        List.append_nil]
    have hdrop : (digits ++ 'm' :: behind).dropWhile Char.isDigit = 'm' :: behind := by
      rw [List.dropWhile_append_of_pos hdigits, List.dropWhile_cons_of_neg (by decide)]
    simp [sequence?, escape, htake, hdrop, hne]

theorem length_lt_of_sequence? {text digits behind : List Char}
    (hsequence : sequence? text = some (digits, behind)) : behind.length < text.length := by
  obtain ⟨rfl, -, -⟩ := sequence?_eq_some_iff.mp hsequence
  simp only [List.length_append, List.length_cons]
  omega

theorem sequence?_cons_of_ne {c : Char} (hc : c ≠ escape) (rest : List Char) :
    sequence? (c :: rest) = none := by
  rw [Option.eq_none_iff_forall_ne_some]
  rintro ⟨digits, behind⟩ hsequence
  exact hc (List.cons.inj (sequence?_eq_some_iff.mp hsequence).1).1

/-! ## Tokens -/

/-- What a terminal takes a part of a text for. -/
inductive Token where
  | shown (c : Char)
  | sequence (digits : List Char)

namespace Token

/-- The character that is shown. -/
def shown? : Token → Option Char
  | shown c => some c
  | sequence _ => none

/-- The digits of a sequence. -/
def digits? : Token → Option (List Char)
  | shown _ => none
  | sequence digits => some digits

end Token

/-- The escape sequences of a text and the other characters, in order.  No sequence overlaps
another one, because each has the escape character in front and nowhere else. -/
def tokens : List Char → List Token
  | [] => []
  | c :: rest =>
      match _ : sequence? (c :: rest) with
      | some (digits, behind) => .sequence digits :: tokens behind
      | none => .shown c :: tokens rest
termination_by text => text.length
decreasing_by
  · exact length_lt_of_sequence? (by assumption)
  · exact Nat.lt_succ_self _

/-- A text without its escape sequences. -/
def shown (text : List Char) : List Char := (tokens text).filterMap Token.shown?

/-- The digits of the escape sequences of a text. -/
def sequences (text : List Char) : List (List Char) := (tokens text).filterMap Token.digits?

@[simp] theorem tokens_nil : tokens [] = [] := by rw [tokens]

theorem tokens_cons_of_ne {c : Char} (hc : c ≠ escape) (rest : List Char) :
    tokens (c :: rest) = .shown c :: tokens rest := by
  rw [tokens]
  split
  · next hsequence =>
    rw [sequence?_cons_of_ne hc] at hsequence
    cases hsequence
  · rfl

theorem tokens_of_sequence? {text digits behind : List Char}
    (hsequence : sequence? text = some (digits, behind)) :
    tokens text = .sequence digits :: tokens behind := by
  cases text with
  | nil => cases hsequence
  | cons c rest =>
      rw [tokens]
      split
      · next hfound =>
        rw [hsequence] at hfound
        obtain ⟨rfl, rfl⟩ := Prod.mk.inj (Option.some.inj hfound)
        rfl
      · next hfound =>
        rw [hsequence] at hfound
        cases hfound

/-- Text without the escape character is shown as it is, whatever follows it. -/
theorem tokens_append {text : List Char} (htext : escape ∉ text) (rest : List Char) :
    tokens (text ++ rest) = text.map .shown ++ tokens rest := by
  induction text with
  | nil => rfl
  | cons c later ih =>
      have hc : c ≠ escape := fun heq => htext (heq ▸ List.mem_cons_self)
      have hlater : escape ∉ later := fun hmem => htext (List.mem_cons_of_mem c hmem)
      rw [List.cons_append, tokens_cons_of_ne hc, ih hlater]
      rfl

theorem tokens_sequence {numbers : String} (hne : numbers.toList ≠ [])
    (hdigits : numbers.toList.all Char.isDigit = true) (rest : List Char) :
    tokens ((sequence numbers).toList ++ rest) = .sequence numbers.toList :: tokens rest := by
  apply tokens_of_sequence?
  rw [sequence?_eq_some_iff]
  refine ⟨?_, hne, List.all_eq_true.mp hdigits⟩
  simp [sequence, escape]

/-! ## Spans -/

/-- Text in a style, and the text between it and the text in a style before it. -/
structure Span where
  before : List Char
  digits : List Char
  text : List Char

/-- A span as it is read: one sequence starts its style, and the next one takes all styles back. -/
def Span.tokens (span : Span) : List Token :=
  span.before.map .shown ++ .sequence span.digits :: span.text.map .shown ++ [.sequence ['0']]

/-! ## Pieces -/

/-- A part of a text that is painted as a whole if colour is wanted, or never. -/
inductive Piece where
  | plain (text : String)
  | painted (style : Style) (text : String)

namespace Piece

/-- A piece as it stands in the text. -/
def text (colour : Bool) : Piece → String
  | plain text => text
  | painted style text => style.paintIf colour text

/-- A piece as it is read. -/
def tokens : Piece → List Token
  | plain text => text.toList.map .shown
  | painted style text =>
      .sequence style.numbers.toList :: text.toList.map .shown ++ [.sequence ['0']]

/-- Whether a piece is painted. -/
def isPainted : Piece → Bool
  | plain _ => false
  | painted _ _ => true

/-- Nothing in a piece is taken for a sequence but those of its style, which has one number. -/
def IsReadable : Piece → Prop
  | plain text => escape ∉ text.toList
  | painted style text => escape ∉ text.toList ∧ style.numbers.toList.all Char.isDigit = true

theorem tokens_text {piece : Piece} (hreadable : piece.IsReadable) (rest : List Char) :
    Style.tokens ((piece.text true).toList ++ rest) = piece.tokens ++ Style.tokens rest := by
  cases piece with
  | plain text => exact tokens_append hreadable rest
  | painted style text =>
      obtain ⟨htext, hdigits⟩ := hreadable
      have hstyle : style.numbers.toList ≠ [] := by cases style <;> decide
      have hreset : Style.tokens ((sequence "0").toList ++ rest) =
          .sequence ['0'] :: Style.tokens rest := tokens_sequence (by decide) (by decide) rest
      have hpiece : ((painted style text).text true).toList ++ rest =
          (sequence style.numbers).toList ++ (text.toList ++ ((sequence "0").toList ++ rest)) := by
        simp [Piece.text, paintIf, paint]
      -- what comes later does not change how these three parts are read
      rw [hpiece, tokens_sequence hstyle hdigits, tokens_append htext, hreset, Piece.tokens]
      simp

theorem filterMap_shown?_tokens (piece : Piece) :
    piece.tokens.filterMap Token.shown? = (piece.text false).toList := by
  have hshown : ∀ text : List Char, (text.map Token.shown).filterMap Token.shown? = text := by
    intro text
    rw [List.filterMap_map]
    exact List.filterMap_some
  cases piece with
  | plain text => exact hshown text.toList
  | painted style text =>
      rw [tokens, List.cons_append, List.filterMap_cons_none rfl, List.filterMap_append, hshown]
      exact List.append_nil _

theorem length_filterMap_digits?_tokens (piece : Piece) :
    (piece.tokens.filterMap Token.digits?).length = if piece.isPainted then 2 else 0 := by
  have hdigits : ∀ text : List Char, (text.map Token.shown).filterMap Token.digits? = [] := by
    intro text
    rw [List.filterMap_map]
    exact List.filterMap_eq_nil_iff.mpr fun _ _ => rfl
  cases piece with
  | plain text => simp [tokens, isPainted, hdigits]
  | painted style text => simp [tokens, isPainted, Token.digits?, hdigits]

end Piece

variable {pieces : List Piece}

theorem tokens_join (hpieces : ∀ piece ∈ pieces, piece.IsReadable) :
    tokens (String.join (pieces.map (Piece.text true))).toList = pieces.flatMap Piece.tokens := by
  rw [String.toList_join]
  induction pieces with
  | nil => exact tokens_nil
  | cons piece later ih =>
      rw [List.map_cons, List.flatMap_cons, List.flatMap_cons,
        Piece.tokens_text (hpieces piece List.mem_cons_self),
        ih fun other hother => hpieces other (List.mem_cons_of_mem piece hother)]

/-- Without its sequences, a text made of pieces is the one without colour. -/
theorem shown_join (hpieces : ∀ piece ∈ pieces, piece.IsReadable) :
    shown (String.join (pieces.map (Piece.text true))).toList =
      (String.join (pieces.map (Piece.text false))).toList := by
  rw [shown, tokens_join hpieces, String.toList_join, List.filterMap_flatMap, List.flatMap_map]
  simp only [Piece.filterMap_shown?_tokens]

/-- Each painted piece has the sequence that starts its style and the one that takes it back. -/
theorem length_sequences_join (hpieces : ∀ piece ∈ pieces, piece.IsReadable) :
    (sequences (String.join (pieces.map (Piece.text true))).toList).length =
      2 * pieces.countP Piece.isPainted := by
  rw [sequences, tokens_join hpieces]
  clear hpieces
  induction pieces with
  | nil => rfl
  | cons piece later ih =>
      rw [List.flatMap_cons, List.filterMap_append, List.length_append, ih,
        Piece.length_filterMap_digits?_tokens, List.countP_cons]
      split <;> omega

/-- The painted pieces with the text in front of each, and the text behind the last one. -/
def spansOf : List Char → List Piece → List Span × List Char
  | before, [] => ([], before)
  | before, .plain text :: later => spansOf (before ++ text.toList) later
  | before, .painted style text :: later =>
      (spansOf [] later).map (List.cons ⟨before, style.numbers.toList, text.toList⟩) id

theorem tokens_pieces (before : List Char) (pieces : List Piece) :
    before.map Token.shown ++ pieces.flatMap Piece.tokens =
      (spansOf before pieces).1.flatMap Span.tokens ++ (spansOf before pieces).2.map .shown := by
  induction pieces generalizing before with
  | nil => exact List.append_nil _
  | cons piece later ih =>
      -- plain text waits for the next span, and a painted piece closes one
      cases piece with
      | plain text =>
          rw [spansOf, ← ih, List.map_append, List.flatMap_cons, Piece.tokens, List.append_assoc]
      | painted style text =>
          have hlater := ih []
          rw [List.map_nil, List.nil_append] at hlater
          show _ = (Span.tokens ⟨before, style.numbers.toList, text.toList⟩ ++
            (spansOf [] later).1.flatMap Span.tokens) ++ (spansOf [] later).2.map .shown
          rw [List.flatMap_cons, hlater, Piece.tokens, Span.tokens]
          simp only [List.append_assoc]

/-- The painted pieces are the spans of a text made of pieces. -/
theorem tokens_join_eq_spans (hpieces : ∀ piece ∈ pieces, piece.IsReadable) :
    tokens (String.join (pieces.map (Piece.text true))).toList =
      (spansOf [] pieces).1.flatMap Span.tokens ++ (spansOf [] pieces).2.map .shown := by
  rw [tokens_join hpieces, ← tokens_pieces]
  rfl

end PackageCoverage.Style
