import LogSieve.Proofs.Json.Braces
import LogSieve.Proofs.Json.Elements
import Mathlib.Data.List.TakeWhile

/-!
# The extent of what is read

What a reader takes off a text is a piece with an extent of its own (`IsReadAs`).  It does
not depend on what follows: a reader looks further only to see where a number ends, so the
piece is read again wherever it stands, if no part of a number follows.  And the count of
braces, which knows no more of the grammar than strings and backslashes, is the same behind
the piece as before it.  Both are said of each reader along the grammar
(`readsPieces_readValue`).

So the count stops at the brace that closes an object (`untilBalanced_of_readValue`), and an
object can be cut out of its text between the braces (`exists_object_of_ofText`).
-/

namespace LogSieve.Json

/-- A text ends in another one, and what comes before it passes. -/
def Leaves (text rest : Text) : Prop := ∃ piece, text = piece ++ rest ∧ Passes false piece

namespace Leaves

theorem refl (text : Text) : Leaves text text := ⟨[], rfl, passes_nil false⟩

theorem trans {text middle rest : Text} (hfirst : Leaves text middle)
    (hsecond : Leaves middle rest) : Leaves text rest := by
  obtain ⟨first, rfl, hfirst⟩ := hfirst
  obtain ⟨second, rfl, hsecond⟩ := hsecond
  exact ⟨first ++ second, (List.append_assoc ..).symm, hfirst.append hsecond⟩

theorem of_cons {c : Char} (h : c ∉ ['\\', '"', '\x7b', '\x7d']) {text rest : Text}
    (htext : Leaves text rest) : Leaves (c :: text) rest :=
  trans ⟨[c], rfl, passes_singleton h⟩ htext

theorem length_le {text rest : Text} (h : Leaves text rest) : rest.length ≤ text.length := by
  obtain ⟨piece, rfl, -⟩ := h
  rw [List.length_append]
  exact Nat.le_add_left _ _

end Leaves

/-- A piece is read as a value wherever it stands, if no part of a number follows, and the count of
braces passes it. -/
structure IsReadAs {α : Type} (read : Text → Except Fault (α × Text)) (piece : Text)
    (value : α) : Prop where
  ne_nil : piece ≠ []
  passes : Passes false piece
  read_append : ∀ rest, EndsNumber rest → read (piece ++ rest) = .ok (value, rest)

/-- Whatever a reader takes off a text, it reads in the same way elsewhere. -/
def ReadsPieces {α : Type} (read : Text → Except Fault (α × Text)) : Prop :=
  ∀ text value rest, read text = .ok (value, rest) →
    ∃ piece, text = piece ++ rest ∧ IsReadAs read piece value

theorem ReadsPieces.leaves {α : Type} {read : Text → Except Fault (α × Text)} (h : ReadsPieces read)
    {text rest : Text} {value : α} (hread : read text = .ok (value, rest)) : Leaves text rest := by
  obtain ⟨piece, htext, hpiece⟩ := h _ _ _ hread
  exact ⟨piece, htext, hpiece.passes⟩

/-! ## Blanks -/

/-- The blanks at the start of a text are passed over wherever they stand, and are no part of a
number. -/
theorem exists_blanks (text : Text) :
    ∃ blanks, text = blanks ++ skipBlanks text ∧ (∀ c ∈ blanks, c ∈ [' ', '\t', '\n', '\r']) ∧
      (∀ rest, skipBlanks (blanks ++ rest) = skipBlanks rest) ∧
      ∀ rest, EndsNumber rest → EndsNumber (blanks ++ rest) := by
  have hblank : ∀ c ∈ text.takeWhile (fun c => c == ' ' || c == '\t' || c == '\n' || c == '\r'),
      (c == ' ' || c == '\t' || c == '\n' || c == '\r') = true :=
    fun c hc => List.mem_takeWhile_imp (p := fun c => c == ' ' || c == '\t' || c == '\n' ||
      c == '\r') hc
  refine ⟨text.takeWhile _, List.takeWhile_append_dropWhile.symm, ?_, ?_, ?_⟩
  · intro c hc
    simpa [or_assoc] using hblank c hc
  · exact fun rest => List.dropWhile_append_of_pos hblank
  · intro rest hrest
    cases hblanks : text.takeWhile (fun c => c == ' ' || c == '\t' || c == '\n' || c == '\r') with
    | nil => exact hrest
    | cons c more =>
        intro d hd
        obtain rfl : c = d := Option.some.inj hd
        have hc := hblank c (hblanks ▸ List.mem_cons_self)
        simp only [Bool.or_eq_true, beq_iff_eq] at hc
        rcases hc with ((rfl | rfl) | rfl) | rfl <;> decide

theorem passes_blanks {blanks : Text} (h : ∀ c ∈ blanks, c ∈ [' ', '\t', '\n', '\r']) :
    Passes false blanks := by
  refine passes_of_forall fun c hc => ?_
  have hblank := h c hc
  simp only [List.mem_cons, List.not_mem_nil, or_false] at hblank
  rcases hblank with rfl | rfl | rfl | rfl <;> decide

theorem leaves_skipBlanks (text : Text) : Leaves text (skipBlanks text) := by
  obtain ⟨blanks, htext, hblanks, -⟩ := exists_blanks text
  exact ⟨blanks, htext, passes_blanks hblanks⟩

/-- A text that starts like one behind blanks does not start with a blank. -/
theorem skipBlanks_of_head?_eq (text : Text) {other : Text}
    (h : (skipBlanks text).head? = other.head?) : skipBlanks other = other := by
  have hhead := List.head?_dropWhile_not
    (fun c => c == ' ' || c == '\t' || c == '\n' || c == '\r') text
  rw [show (text.dropWhile _).head? = other.head? from h] at hhead
  cases other with
  | nil => rfl
  | cons c rest => exact skipBlanks_of_head (by simpa [and_assoc] using hhead) rest

/-- Behind a brace there is no text of blanks that ends in a brace. -/
theorem eq_nil_of_skipBlanks {front rest : Text} (hblank : skipBlanks rest = [])
    (hclose : (front ++ '\x7d' :: rest).getLast? = some '\x7d') : rest = [] := by
  rcases List.eq_nil_or_concat rest with rfl | ⟨others, c, rfl⟩
  · rfl
  · have hlast : c = '\x7d' := by simpa [List.getLast?_append, List.getLast?_cons] using hclose
    have hc := List.dropWhile_eq_nil_iff.mp hblank c (by simp)
    rw [hlast] at hc
    exact absurd hc (by decide)

theorem endsNumber_cons {c : Char} (h : c ∈ [',', ']', '\x7d']) (rest : Text) :
    EndsNumber (c :: rest) :=
  (follows_cons (by simpa using h) rest).endsNumber

/-! ## Strings -/

theorem exists_hexValue?_of_hexadecimal? {h₃ h₂ h₁ h₀ : Char} {unit : Nat}
    (h : Text.hexadecimal? [h₃, h₂, h₁, h₀] = some unit) :
    (∃ value, Text.hexValue? h₃ = some value) ∧ (∃ value, Text.hexValue? h₂ = some value) ∧
      (∃ value, Text.hexValue? h₁ = some value) ∧ ∃ value, Text.hexValue? h₀ = some value := by
  simp only [Text.hexadecimal?, List.isEmpty_cons, Bool.false_eq_true, if_false, List.mapM_cons,
    List.mapM_nil, Option.map_eq_some_iff, Option.bind_eq_bind, Option.bind_eq_some_iff] at h
  obtain ⟨-, ⟨value₃, hvalue₃, -, ⟨value₂, hvalue₂, -, ⟨value₁, hvalue₁, -, ⟨value₀, hvalue₀, -⟩,
    -⟩, -⟩, -⟩, -⟩ := h
  exact ⟨⟨value₃, hvalue₃⟩, ⟨value₂, hvalue₂⟩, ⟨value₁, hvalue₁⟩, ⟨value₀, hvalue₀⟩⟩

theorem passes_hexDigit {c : Char} {value : Nat} (h : Text.hexValue? c = some value) :
    Passes true [c] := by
  refine passes_inside ?_ ?_ <;>
  · rintro rfl
    cases h

/-- A string is read up to its closing mark, whatever follows there, and nothing before ends it. -/
theorem exists_piece_of_stringCodes? {text rest : Text} {codes : List Nat}
    (h : stringCodes? text = some (codes, rest)) :
    ∃ inner, text = inner ++ '"' :: rest ∧ Passes true inner ∧
      ∀ tail, stringCodes? (inner ++ '"' :: tail) = some (codes, tail) := by
  fun_induction stringCodes? text generalizing codes with
  | case1 => cases h
  | case2 after =>
      obtain ⟨rfl, rfl⟩ := Prod.mk.inj (Option.some.inj h)
      exact ⟨[], rfl, passes_nil true, stringCodes?_mark⟩
  | case3 h₃ h₂ h₁ h₀ after unit hunit _ ih =>
      obtain ⟨⟨others, tail⟩, hothers, heq⟩ := Option.map_eq_some_iff.mp h
      obtain ⟨rfl, rfl⟩ := Prod.mk.inj heq
      obtain ⟨inner, rfl, hpasses, hinner⟩ := ih hothers
      obtain ⟨⟨value₃, hvalue₃⟩, ⟨value₂, hvalue₂⟩, ⟨value₁, hvalue₁⟩, ⟨value₀, hvalue₀⟩⟩ :=
        exists_hexValue?_of_hexadecimal? hunit
      refine ⟨['\\', 'u', h₃, h₂, h₁, h₀] ++ inner, rfl, ?_, fun more => ?_⟩
      · -- the count sees one escaped letter and four characters without a meaning
        refine ((passes_escape 'u').append ?_).append hpasses
        exact (passes_hexDigit hvalue₃).cons ((passes_hexDigit hvalue₂).cons
          ((passes_hexDigit hvalue₁).cons (passes_hexDigit hvalue₀)))
      · have hunitRead := stringCodes?_unit hunit (inner ++ '"' :: more)
        rw [hinner] at hunitRead
        exact hunitRead
  | case5 letter after _ meant hmeant _ ih =>
      obtain ⟨⟨others, tail⟩, hothers, heq⟩ := Option.map_eq_some_iff.mp h
      obtain ⟨rfl, rfl⟩ := Prod.mk.inj heq
      obtain ⟨inner, rfl, hpasses, hinner⟩ := ih hothers
      refine ⟨['\\', letter] ++ inner, rfl, (passes_escape letter).append hpasses, fun more => ?_⟩
      have hletterRead := stringCodes?_letter hmeant (inner ++ '"' :: more)
      rw [hinner] at hletterRead
      exact hletterRead
  | case9 c after hmark hescape hcontrol ih =>
      obtain ⟨⟨others, tail⟩, hothers, heq⟩ := Option.map_eq_some_iff.mp h
      obtain ⟨rfl, rfl⟩ := Prod.mk.inj heq
      obtain ⟨inner, rfl, hpasses, hinner⟩ := ih hothers
      refine ⟨c :: inner, rfl, (passes_inside hescape hmark).cons hpasses, fun more => ?_⟩
      have hcharRead := stringCodes?_printable hmark hescape hcontrol (inner ++ '"' :: more)
      rw [hinner] at hcharRead
      exact hcharRead
  | case4 | case6 | case7 | case8 => cases h

theorem exists_piece_of_readString {text rest value : Text}
    (h : readString text = .ok (value, rest)) :
    ∃ inner, text = inner ++ '"' :: rest ∧ Passes true inner ∧
      ∀ tail, readString (inner ++ '"' :: tail) = .ok (value, tail) := by
  unfold readString at h
  split at h
  · rename_i codes after hcodes
    obtain ⟨rfl, rfl⟩ := Prod.mk.inj (Except.ok.inj h)
    obtain ⟨inner, rfl, hpasses, hinner⟩ := exists_piece_of_stringCodes? hcodes
    refine ⟨inner, rfl, hpasses, fun tail => ?_⟩
    rw [readString, hinner]
  · cases h

theorem readString_append {text rest value : Text} (h : readString text = .ok (value, rest))
    (more : Text) : readString (text ++ more) = .ok (value, rest ++ more) := by
  obtain ⟨inner, rfl, -, hinner⟩ := exists_piece_of_readString h
  rw [List.append_assoc, List.cons_append]
  exact hinner (rest ++ more)

/-! ## Scalars -/

theorem passes_digits {digits : Text} (h : ∀ c ∈ digits, (digit? c).isSome = true) :
    Passes false digits :=
  passes_of_forall fun c hc =>
    Text.isAsciiDigit_not_mem (isAsciiDigit_of_digit? (h c hc)) (by decide)

theorem passes_exponent {exponent : Text} (h : Number.IsOptionalExponent digit? exponent) :
    Passes false exponent := by
  rcases h with rfl | ⟨hletter, hsign, hdigits⟩
  · exact passes_nil false
  · refine Passes.cons (passes_singleton ?_) (Passes.append ?_ (passes_digits hdigits.isDigit))
    · rcases hletter with rfl | rfl <;> decide
    · cases hsign with
      | nothing => exact passes_nil false
      | plus => exact passes_singleton (by decide)
      | minus => exact passes_singleton (by decide)

theorem NumberText.passes_written (number : NumberText) : Passes false number.written := by
  have hfraction : Passes false (pointed number.fraction) := by
    have hdigits := passes_digits number.isFraction
    cases hpointed : number.fraction with
    | nil => exact passes_nil false
    | cons c more => exact (passes_singleton (by decide)).cons (hpointed ▸ hdigits)
  have hunsigned : Passes false number.unsigned :=
    (passes_digits number.isWhole.isDigit).append
      (hfraction.append (passes_exponent number.isExponent))
  rw [written]
  split
  · exact (passes_singleton (by decide)).cons hunsigned
  · exact hunsigned

theorem isReadAs_number {number : NumberText}
    (hshort : number.isInteger = true → number.whole.length ≤ digitLimit) (depth : Nat) :
    IsReadAs (readValue depth) number.written number.value where
  ne_nil := by
    obtain ⟨c, rest, htext, -⟩ := number.starts_written
    rw [htext]
    exact List.cons_ne_nil c rest
  passes := number.passes_written
  read_append _ hrest := readValue_number hshort depth hrest

theorem isReadAs_word {word : Text} {value : Value} (h : (word, value) ∈ words) (depth : Nat) :
    IsReadAs (readValue depth) word value := by
  simp only [words, List.mem_cons, List.not_mem_nil, or_false, Prod.mk.injEq] at h
  rcases h with ⟨rfl, rfl⟩ | ⟨rfl, rfl⟩ | ⟨rfl, rfl⟩ | ⟨rfl, rfl⟩ | ⟨rfl, rfl⟩ | ⟨rfl, rfl⟩ <;>
  · exact ⟨by decide, passes_of_any_eq_false (by decide), fun rest _ => by cases depth <;> rfl⟩

theorem isReadAs_string {inner value : Text} (hpasses : Passes true inner)
    (h : ∀ rest, readString (inner ++ '"' :: rest) = .ok (value, rest)) (depth : Nat) :
    IsReadAs (readValue depth) ('"' :: inner ++ ['"']) (.string value) where
  ne_nil := List.cons_ne_nil _ _
  passes := hpasses.quoted
  read_append rest _ := by
    have hword : ∀ text, word? ('"' :: text) = none := word?_of_head (by decide)
    rw [List.append_assoc, List.cons_append, List.singleton_append,
      readValue_of_head (by decide) (by decide), readScalar, hword]
    simp only [h]
    rfl

theorem exists_piece_of_readScalar {text rest : Text} {value : Value}
    (h : readScalar text = .ok (value, rest)) (depth : Nat) :
    ∃ piece, text = piece ++ rest ∧ IsReadAs (readValue depth) piece value := by
  unfold readScalar at h
  split at h
  · rename_i read hword
    obtain rfl := Except.ok.inj h
    obtain ⟨⟨word, meant⟩, hmem, hread⟩ := List.exists_of_findSome?_eq_some hword
    simp only at hread
    split at hread
    · rename_i hprefix
      obtain ⟨after, rfl⟩ := List.isPrefixOf_iff_prefix.mp hprefix
      obtain ⟨rfl, rfl⟩ := Prod.mk.inj (Option.some.inj hread)
      rw [List.drop_left]
      exact ⟨word, rfl, isReadAs_word hmem depth⟩
    · cases hread
  · split at h
    · obtain ⟨⟨t, tail⟩, hstring, heq⟩ := exists_of_map_eq_ok h
      obtain ⟨rfl, rfl⟩ := Prod.mk.inj heq
      obtain ⟨inner, rfl, hpasses, hinner⟩ := exists_piece_of_readString hstring
      exact ⟨'"' :: inner ++ ['"'], by simp, isReadAs_string hpasses hinner depth⟩
    · obtain ⟨number, rfl, rfl, hshort⟩ := exists_number_of_readNumber h
      exact ⟨number.written, rfl, isReadAs_number hshort depth⟩

/-! ## Elements -/

/-- Elements are read again with any bound that is not less than the text is long. -/
theorem exists_inner_of_readListed {α : Type} {read : Text → Except Fault (α × Text)}
    (hread : ReadsPieces read) {close : Char} (hclose : close ∈ [']', '\x7d']) {fuel : Nat}
    {text rest : Text} {elements : List α}
    (h : readListed read close fuel text = .ok (elements, rest)) :
    ∃ inner, text = inner ++ close :: rest ∧ Passes false inner ∧
      ∀ tail fuel, (inner ++ close :: tail).length ≤ fuel →
        readListed read close fuel (inner ++ close :: tail) = .ok (elements, tail) := by
  have hmark : ∀ c ∈ [',', ']', '\x7d'], ∀ tail, skipBlanks (c :: tail) = c :: tail := by
    intro c hc tail
    refine skipBlanks_of_head ?_ tail
    simp only [List.mem_cons, List.not_mem_nil, or_false] at hc
    rcases hc with rfl | rfl | rfl <;> decide
  have hfuel : ∀ {inner tail : Text} {fuel : Nat}, (inner ++ close :: tail).length ≤ fuel →
      ∃ less, fuel = less + 1 := by
    intro inner tail fuel hlength
    rw [List.length_append, List.length_cons] at hlength
    exact Nat.exists_eq_add_one_of_ne_zero (by omega)
  induction fuel generalizing text elements with
  | zero => cases h
  | succ fuel ih =>
      obtain ⟨⟨element, after⟩, helement, hnext⟩ := exists_of_bind_eq_ok h
      obtain ⟨first, rfl, hfirst⟩ := hread _ _ _ helement
      obtain ⟨blanks, hafter, hblanks, hskip, hends⟩ := exists_blanks after
      have hpasses := hfirst.passes.append (passes_blanks hblanks)
      simp only at hnext
      split at hnext
      · cases hnext
      · rename_i c behind hbehind
        split at hnext
        · rename_i hc
          obtain ⟨rfl, rfl⟩ := Prod.mk.inj (Except.ok.inj hnext)
          subst hc
          refine ⟨first ++ blanks, by rw [hafter, hbehind]; simp, hpasses,
            fun tail fuel hlength => ?_⟩
          obtain ⟨fuel, rfl⟩ := hfuel hlength
          have hagain := hfirst.read_append (blanks ++ c :: tail)
            (hends _ (endsNumber_cons (List.mem_cons_of_mem ',' hclose) tail))
          simp only [List.append_assoc, readListed, bind, Except.bind, hagain, hskip,
            hmark c (List.mem_cons_of_mem ',' hclose), if_true]
        · split at hnext
          · rename_i hc hcomma
            subst hcomma
            obtain ⟨⟨others, final⟩, hothers, heq⟩ := exists_of_bind_eq_ok hnext
            obtain ⟨rfl, rfl⟩ := Prod.mk.inj (Except.ok.inj heq)
            obtain ⟨inner, hinner, hinnerPasses, hinnerAgain⟩ := ih hothers
            obtain ⟨spaces, hspaces, hspacesBlank, hpass, -⟩ := exists_blanks behind
            refine ⟨first ++ blanks ++ ',' :: (spaces ++ inner), ?_, ?_, fun tail fuel hlength => ?_⟩
            · rw [hafter, hbehind, hspaces, hinner]
              simp
            · exact hpasses.append ((passes_singleton (by decide)).cons
                ((passes_blanks hspacesBlank).append hinnerPasses))
            obtain ⟨fuel, rfl⟩ := hfuel hlength
            have hagain := hfirst.read_append
              (blanks ++ ',' :: (spaces ++ (inner ++ close :: tail)))
              (hends _ (endsNumber_cons (by decide) _))
            have hstart : skipBlanks (inner ++ close :: tail) = inner ++ close :: tail := by
              refine skipBlanks_of_head?_eq behind ?_
              rw [hinner]
              cases inner <;> rfl
            have hshorter : (inner ++ close :: tail).length ≤ fuel := by
              simp only [List.length_append, List.length_cons] at hlength ⊢
              omega
            simp only [List.append_assoc, List.cons_append, readListed, bind, Except.bind, hagain,
              hskip, hmark ',' (by decide), if_neg hc, if_true, hpass, hstart,
              hinnerAgain tail fuel hshorter]
          · cases hnext

theorem exists_inner_of_readEnclosed {α : Type} {read : Text → Except Fault (α × Text)}
    (hread : ReadsPieces read) {close : Char} (hclose : close ∈ [']', '\x7d'])
    {make : List α → Value} {text rest : Text} {value : Value}
    (h : readEnclosed read close make text = .ok (value, rest)) :
    ∃ inner, text = inner ++ close :: rest ∧ Passes false inner ∧
      ∀ tail, readEnclosed read close make (inner ++ close :: tail) = .ok (value, tail) := by
  obtain ⟨blanks, htext, hblanks, hskip, -⟩ := exists_blanks text
  unfold readEnclosed at h
  split at h
  · cases h
  · rename_i c behind hbehind
    have hstart : ∀ {other : Text}, other.head? = some c → skipBlanks other = other := by
      intro other hother
      refine skipBlanks_of_head?_eq text ?_
      rw [hbehind, hother]
      rfl
    split at h
    · rename_i hc
      obtain ⟨rfl, rfl⟩ := Prod.mk.inj (Except.ok.inj h)
      refine ⟨blanks, by rw [htext, hbehind, hc], passes_blanks hblanks, fun tail => ?_⟩
      rw [readEnclosed, hskip, ← hc, hstart rfl]
      simp only [if_true]
    · rename_i hc
      obtain ⟨⟨elements, after⟩, helements, heq⟩ := exists_of_map_eq_ok h
      obtain ⟨rfl, rfl⟩ := Prod.mk.inj heq
      obtain ⟨inner, hinner, hpasses, hagain⟩ := exists_inner_of_readListed hread hclose helements
      refine ⟨blanks ++ inner, by rw [htext, hbehind, hinner, List.append_assoc],
        (passes_blanks hblanks).append hpasses, fun tail => ?_⟩
      -- behind the blanks both texts start with the same element
      obtain ⟨more, hmore⟩ : ∃ more, inner ++ close :: tail = c :: more := by
        cases inner with
        | nil => exact absurd (List.cons.inj hinner).1 hc
        | cons d others =>
            obtain rfl := (List.cons.inj hinner).1
            exact ⟨_, rfl⟩
      have hlisted := hagain tail _ (Nat.le_refl _)
      rw [hmore] at hlisted
      rw [List.append_assoc, readEnclosed, hskip, hmore, hstart rfl]
      simp only [if_neg hc, hlisted, Except.map]

/-! ## Members -/

/-- Behind a key the reader stands at a value, not at a blank. -/
theorem exists_piece_of_readKey {text rest key : Text} (h : readKey text = .ok (key, rest)) :
    ∃ piece behind, text = piece ++ rest ∧ skipBlanks behind = rest ∧ Passes false piece ∧
      ∀ tail, readKey (piece ++ tail) = .ok (key, skipBlanks tail) := by
  unfold readKey at h
  split at h
  · obtain ⟨⟨written, after⟩, hkey, hnext⟩ := exists_of_bind_eq_ok h
    obtain ⟨inner, rfl, hpasses, hinner⟩ := exists_piece_of_readString hkey
    obtain ⟨blanks, hafter, hblanks, hskip, -⟩ := exists_blanks after
    simp only at hnext
    split at hnext
    · rename_i behind hcolon
      obtain ⟨rfl, rfl⟩ := Prod.mk.inj (Except.ok.inj hnext)
      obtain ⟨spaces, hbehind, hspaces, hpass, -⟩ := exists_blanks behind
      refine ⟨'"' :: inner ++ ['"'] ++ (blanks ++ ':' :: spaces), behind, ?_, rfl, ?_,
        fun tail => ?_⟩
      · nth_rewrite 1 [hafter, hcolon, hbehind]
        simp
      · exact hpasses.quoted.append ((passes_blanks hblanks).append
          ((passes_singleton (by decide)).cons (passes_blanks hspaces)))
      · have hcolonAgain : skipBlanks (':' :: (spaces ++ tail)) = ':' :: (spaces ++ tail) :=
          skipBlanks_of_head (by decide) _
        simp only [List.append_assoc, List.cons_append, List.nil_append, readKey, bind, Except.bind,
          hinner, hskip, hcolonAgain, hpass]
    · cases hnext
  · cases h

theorem leaves_of_readKey {text rest key : Text} (h : readKey text = .ok (key, rest)) :
    Leaves text rest := by
  obtain ⟨piece, -, htext, -, hpasses, -⟩ := exists_piece_of_readKey h
  exact ⟨piece, htext, hpasses⟩

theorem readsPieces_readMember {read : Text → Except Fault (Value × Text)}
    (hread : ReadsPieces read) : ReadsPieces (readMember read) := by
  intro text member rest h
  obtain ⟨⟨key, afterKey⟩, hkey, hnext⟩ := exists_of_bind_eq_ok h
  obtain ⟨⟨value, after⟩, hvalue, heq⟩ := exists_of_bind_eq_ok hnext
  obtain ⟨rfl, rfl⟩ := Prod.mk.inj (Except.ok.inj heq)
  obtain ⟨front, behind, rfl, hbehind, hpasses, hkeyAgain⟩ := exists_piece_of_readKey hkey
  obtain ⟨piece, rfl, hpiece⟩ := hread _ _ _ hvalue
  refine ⟨front ++ piece, by rw [List.append_assoc], ?_, hpasses.append hpiece.passes,
    fun tail htail => ?_⟩
  · exact List.append_ne_nil_of_right_ne_nil front hpiece.ne_nil
  · obtain ⟨c, more, rfl⟩ := List.exists_cons_of_ne_nil hpiece.ne_nil
    have hstart : skipBlanks (c :: more ++ tail) = c :: more ++ tail := by
      refine skipBlanks_of_head?_eq behind ?_
      rw [hbehind]
      rfl
    simp only [List.append_assoc, readMember, bind, Except.bind, hkeyAgain, hstart,
      hpiece.read_append tail htail]

/-! ## Values -/

/-- A reader of values takes off pieces that it would read anywhere. -/
theorem readsPieces_readValue (depth : Nat) : ReadsPieces (readValue depth) := by
  induction depth with
  | zero =>
      -- no array and no object is read at depth zero
      intro text value rest h
      obtain ⟨inner, rfl⟩ | ⟨inner, rfl⟩ | hscalar := readValue_cases text
      · cases h
      · cases h
      · exact exists_piece_of_readScalar (hscalar 0 ▸ h) 0
  | succ depth ih =>
      intro text value rest h
      obtain ⟨inner, rfl⟩ | ⟨inner, rfl⟩ | hscalar := readValue_cases text
      · rw [readValue_bracket] at h
        obtain ⟨items, rfl, hpasses, hagain⟩ := exists_inner_of_readEnclosed ih (by decide) h
        refine ⟨'[' :: items ++ [']'], by simp, List.cons_ne_nil _ _, ?_, fun tail _ => ?_⟩
        · exact ((passes_singleton (by decide)).cons hpasses).append (passes_singleton (by decide))
        · rw [List.append_assoc, List.cons_append, readValue_bracket]
          exact hagain tail
      · rw [readValue_brace] at h
        obtain ⟨members, rfl, hpasses, hagain⟩ :=
          exists_inner_of_readEnclosed (readsPieces_readMember ih) (by decide) h
        refine ⟨'\x7b' :: members ++ ['\x7d'], by simp, List.cons_ne_nil _ _, hpasses.braced,
          fun tail _ => ?_⟩
        rw [List.append_assoc, List.cons_append, readValue_brace]
        exact hagain tail
      · exact exists_piece_of_readScalar (hscalar (depth + 1) ▸ h) (depth + 1)

theorem leaves_of_readValue {depth : Nat} {text rest : Text} {value : Value}
    (h : readValue depth text = .ok (value, rest)) : Leaves text rest :=
  (readsPieces_readValue depth).leaves h

/-! ## Objects -/

/-- The count of braces ends where the reader of an object does, whatever follows there. -/
theorem untilBalanced_of_readValue {depth : Nat} {text rest : Text} {value : Value}
    (h : readValue depth ('\x7b' :: text) = .ok (value, rest)) :
    ∃ inner, text = inner ++ '\x7d' :: rest ∧ ∀ tail,
      Embedded.untilBalanced 0 false false ('\x7b' :: inner ++ '\x7d' :: tail) =
        some ('\x7b' :: inner ++ ['\x7d']) := by
  cases depth with
  | zero => cases h
  | succ depth =>
      rw [readValue_brace] at h
      obtain ⟨inner, htext, hpasses, -⟩ := exists_inner_of_readEnclosed
        (readsPieces_readMember (readsPieces_readValue depth)) (by decide) h
      exact ⟨inner, htext, hpasses.untilBalanced_eq⟩

/-- An object starts with a brace. -/
theorem exists_inner_of_readValue_object {depth : Nat} {text rest : Text}
    {members : Association Text Value} (h : readValue depth text = .ok (.object members, rest)) :
    ∃ inner, text = '\x7b' :: inner := by
  obtain ⟨inner, rfl⟩ | hbrace | hscalar := readValue_cases text
  · cases depth with
    | zero => cases h
    | succ depth =>
        rw [readValue_bracket, readEnclosed] at h
        split at h
        · cases h
        · split at h
          · cases (Prod.mk.inj (Except.ok.inj h)).1
          · obtain ⟨found, -, heq⟩ := exists_of_map_eq_ok h
            cases (Prod.mk.inj heq).1
  · exact hbrace
  · exact absurd (hscalar depth ▸ h) (readScalar_ne_object _ _ _)

/-- The text of an object is the object itself, from brace to brace, between blanks. -/
theorem exists_object_of_ofText {depth : Nat} {text : Text} {members : Association Text Value}
    (h : Value.ofText depth text = .ok (.object members)) :
    ∃ front object back, text = front ++ '\x7b' :: object ++ back ∧ '\x7b' ∉ front ∧
      readValue depth ('\x7b' :: object) = .ok (.object members, []) := by
  obtain ⟨rest, hread, -⟩ := exists_rest_of_ofText h
  obtain ⟨piece, hpiece, hagain⟩ := readsPieces_readValue depth _ _ _ hread
  have halone := hagain.read_append [] (fun c hc => by cases hc)
  rw [List.append_nil] at halone
  obtain ⟨object, rfl⟩ := exists_inner_of_readValue_object halone
  obtain ⟨front, htext, hblanks, -⟩ := exists_blanks text
  refine ⟨front, object, rest, ?_, fun hmem => absurd (hblanks _ hmem) (by decide), halone⟩
  rw [htext, hpiece, List.append_assoc]

end LogSieve.Json
