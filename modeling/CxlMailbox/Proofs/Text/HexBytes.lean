/-
# CxlMailbox.Proofs.Text.HexBytes — which texts spell bytes, and which are read

The notation is said here without the reader: `Cut` is a text and its tokens, `HexPairs` are digits
two by two and their bytes, and a text `Spells` bytes if each of its tokens does, without its radix.

The reader does not look at the tokens one by one, but joins them first, and it takes a plus sign
and a digit for a byte.  `ReadPairs` is what it then reads:

* `tokens_eq_iff`: the reader's tokens are the tokens of the text;
* `readBytes_eq_ok_iff`: a text is read exactly if its joined tokens are `ReadPairs`;
* `hex_text_read`: every text that spells bytes is read as these, and no other text with tokens of
  even length and without a plus sign is read.

Two texts that spell nothing and are read all the same are in `misspelled_texts_read`.
-/
import CxlMailbox.CommandLine.Report
import CxlMailbox.Proofs.Text.Numeral

namespace CxlMailbox.Text

set_option autoImplicit false

/-! ## Tokens -/

/-- The text is the tokens, with a separator between each two and none within. -/
inductive Cut : List Char → List (List Char) → Prop
  | last {token : List Char} (plain : ∀ c ∈ token, isSeparator c = false) : Cut token [token]
  | next {token rest : List Char} {c : Char} {tokens : List (List Char)}
      (plain : ∀ c ∈ token, isSeparator c = false) (separates : isSeparator c = true)
      (more : Cut rest tokens) : Cut (token ++ c :: rest) (token :: tokens)

/-- A text that begins with no separator has its first character in its first token. -/
theorem Cut.push {c : Char} {rest : List Char} {tokens : List (List Char)}
    (plain : isSeparator c = false) (more : Cut rest tokens) :
    Cut (c :: rest) (tokens.modifyHead (c :: ·)) := by
  cases more with
  | last plain' => exact .last (List.forall_mem_cons.mpr ⟨plain, plain'⟩)
  | next plain' separates more =>
      exact .next (List.forall_mem_cons.mpr ⟨plain, plain'⟩) separates more

theorem cut_tokens (chars : List Char) : Cut chars (tokens chars) := by
  induction chars with
  | nil => exact .last nofun
  | cons c rest ih =>
      rw [tokens, List.splitOnP_cons_eq_if_modifyHead]
      split
      case isTrue separates =>
        exact (Cut.next nofun separates ih : Cut ([] ++ c :: rest) ([] :: tokens rest))
      case isFalse plain => exact ih.push (Bool.eq_false_iff.mpr plain)

/-- The tokens of a text are those that it is cut into, and no other cut exists. -/
theorem tokens_eq_iff {chars : List Char} {pieces : List (List Char)} :
    tokens chars = pieces ↔ Cut chars pieces := by
  constructor
  · rintro rfl
    exact cut_tokens chars
  · intro cut
    induction cut with
    | last plain => exact List.splitOnP_eq_singleton plain
    | next plain separates _ ih =>
        rw [tokens, List.splitOnP_append_cons_of_forall_mem plain _ separates]
        exact congrArg _ ih

/-! ## Pairs of digits -/

/-- Digits two by two, the high one first, and the bytes they are. -/
inductive HexPairs : List Char → Bytes → Prop
  | nil : HexPairs [] []
  | cons {high low : Char} {h l : Nat} {rest : List Char} {bytes : Bytes}
      (first : IsDigit 16 high h) (second : IsDigit 16 low l) (more : HexPairs rest bytes) :
      HexPairs (high :: low :: rest) (UInt8.ofNat (16 * h + l) :: bytes)

/-- Characters two by two as they are read: two digits, or a plus sign and a digit. -/
inductive ReadPairs : List Char → Bytes → Prop
  | nil : ReadPairs [] []
  | digits {high low : Char} {h l : Nat} {rest : List Char} {bytes : Bytes}
      (first : IsDigit 16 high h) (second : IsDigit 16 low l) (more : ReadPairs rest bytes) :
      ReadPairs (high :: low :: rest) (UInt8.ofNat (16 * h + l) :: bytes)
  | signed {low : Char} {l : Nat} {rest : List Char} {bytes : Bytes} (second : IsDigit 16 low l)
      (more : ReadPairs rest bytes) : ReadPairs ('+' :: low :: rest) (UInt8.ofNat l :: bytes)

/-- Each token spells bytes, its radix apart, and these one after the other are `bytes`. -/
def Spells (text : String) (bytes : Bytes) : Prop :=
  ∃ pieces parts, Cut text.toList pieces ∧ List.Forall₂ HexPairs (pieces.map dropRadix) parts ∧
    bytes = parts.flatten

theorem HexPairs.read {chars : List Char} {bytes : Bytes} (pairs : HexPairs chars bytes) :
    ReadPairs chars bytes := by
  induction pairs with
  | nil => exact .nil
  | cons first second _ ih => exact .digits first second ih

theorem HexPairs.append {chars chars' : List Char} {bytes bytes' : Bytes}
    (front : HexPairs chars bytes) (back : HexPairs chars' bytes') :
    HexPairs (chars ++ chars') (bytes ++ bytes') := by
  induction front with
  | nil => exact back
  | cons first second _ ih => exact .cons first second ih

theorem HexPairs.flatten {tokens : List (List Char)} {parts : List Bytes}
    (each : List.Forall₂ HexPairs tokens parts) : HexPairs tokens.flatten parts.flatten := by
  induction each with
  | nil => exact .nil
  | cons first _ ih => exact first.append ih

/-- Pairs that are read without a sign are pairs of digits. -/
theorem ReadPairs.hexPairs {chars : List Char} {bytes : Bytes} (pairs : ReadPairs chars bytes)
    (unsigned : '+' ∉ chars) : HexPairs chars bytes := by
  induction pairs with
  | nil => exact .nil
  | digits first second _ ih =>
      simp only [List.mem_cons, not_or] at unsigned
      exact .cons first second (ih unsigned.2.2)
  | signed => simp at unsigned

/-- Pairs fall into pairs wherever an even number of characters is in front. -/
theorem HexPairs.split {front back : List Char} {bytes : Bytes}
    (pairs : HexPairs (front ++ back) bytes) (even : front.length % 2 = 0) :
    ∃ bytes₁ bytes₂, HexPairs front bytes₁ ∧ HexPairs back bytes₂ ∧ bytes = bytes₁ ++ bytes₂ := by
  match front with
  | [] => exact ⟨[], bytes, .nil, pairs, rfl⟩
  | [_] => cases even
  | high :: low :: front =>
      obtain - | ⟨first, second, more⟩ := pairs
      have even' : front.length % 2 = 0 := by
        simp only [List.length_cons] at even
        omega
      obtain ⟨bytes₁, bytes₂, here, there, rfl⟩ := more.split even'
      exact ⟨_ :: bytes₁, bytes₂, .cons first second here, there, rfl⟩

/-- So they fall into the pairs of each token, if no token has half a pair. -/
theorem HexPairs.parts {tokens : List (List Char)} {bytes : Bytes}
    (pairs : HexPairs tokens.flatten bytes) (even : ∀ token ∈ tokens, token.length % 2 = 0) :
    ∃ parts, List.Forall₂ HexPairs tokens parts ∧ bytes = parts.flatten := by
  induction tokens generalizing bytes with
  | nil =>
      cases pairs
      exact ⟨[], .nil, rfl⟩
  | cons token tokens ih =>
      obtain ⟨here, later⟩ := List.forall_mem_cons.mp even
      obtain ⟨bytes₁, bytes₂, first, rest, rfl⟩ := HexPairs.split pairs here
      obtain ⟨parts, others, rfl⟩ := ih rest later
      exact ⟨bytes₁ :: parts, .cons first others, rfl⟩

/-! ## The reader -/

theorem readPair_eq_some_iff {high low : Char} {byte : UInt8} :
    readPair high low = some byte ↔ ∃ l, IsDigit 16 low l ∧
      ((∃ h, IsDigit 16 high h ∧ byte = UInt8.ofNat (16 * h + l)) ∨
        high = '+' ∧ byte = UInt8.ofNat l) := by
  have plus : digitValue? 16 '+' = none := by decide
  simp only [← digitValue?_eq_some_iff, readPair]
  rcases first : digitValue? 16 high with _ | h <;> rcases second : digitValue? 16 low with _ | l
  · simp
  · simp [eq_comm]
  · simp
  · have digit : high ≠ '+' := by
      rintro rfl
      rw [plus] at first
      cases first
    simp [digit, eq_comm]

theorem readPairs_eq_some_iff {chars : List Char} {bytes : Bytes} :
    readPairs chars = some bytes ↔ ReadPairs chars bytes := by
  constructor
  · intro read
    induction chars using readPairs.induct generalizing bytes with
    | case1 =>
        cases read
        exact .nil
    | case2 => cases read
    | case3 high low rest ih =>
        simp only [readPairs, Option.bind_eq_bind, Option.bind_eq_some_iff, pure,
          Option.some.injEq] at read
        obtain ⟨byte, pair, bytes, more, rfl⟩ := read
        obtain ⟨l, second, ⟨h, first, rfl⟩ | ⟨rfl, rfl⟩⟩ := readPair_eq_some_iff.mp pair
        · exact .digits first second (ih more)
        · exact .signed second (ih more)
  · intro pairs
    induction pairs with
    | nil => rfl
    | digits first second _ ih =>
        have pair := readPair_eq_some_iff.mpr ⟨_, second, .inl ⟨_, first, rfl⟩⟩
        simp only [readPairs, pair, ih]
        rfl
    | signed second _ ih =>
        have pair := readPair_eq_some_iff.mpr ⟨_, second, .inr ⟨rfl, rfl⟩⟩
        simp only [readPairs, pair, ih]
        rfl

theorem utf8Length_cons (c : Char) (chars : List Char) :
    utf8Length (c :: chars) = c.utf8Size + utf8Length chars := by
  have shift (start : Nat) : chars.foldl (fun n c => n + c.utf8Size) start =
      start + utf8Length chars := by
    unfold utf8Length
    induction chars generalizing start with
    | nil => rfl
    | cons d chars ih =>
        rw [List.foldl_cons, List.foldl_cons, ih, ih (0 + d.utf8Size)]
        omega
  rw [utf8Length, List.foldl_cons, shift, Nat.zero_add]

theorem IsDigit.utf8Size {radix value : Nat} {c : Char} (digit : IsDigit radix c value) :
    c.utf8Size = 1 := by
  have read : digitValue? radix c = some value := digitValue?_eq_some_iff.mpr digit
  have low : c.toNat ≤ 127 := by
    have code := (digitValue?_eq_some_iff_code.mp read).2
    omega
  exact Char.utf8Size_eq_one_iff.mpr low

/-- Characters that are read take one byte each in UTF-8, so that their number there is even. -/
theorem ReadPairs.utf8Length {chars : List Char} {bytes : Bytes} (pairs : ReadPairs chars bytes) :
    utf8Length chars = 2 * bytes.length := by
  induction pairs with
  | nil => rfl
  | digits first second _ ih =>
      rw [utf8Length_cons, utf8Length_cons, first.utf8Size, second.utf8Size, ih, List.length_cons]
      omega
  | signed second _ ih =>
      rw [utf8Length_cons, utf8Length_cons, second.utf8Size, ih, List.length_cons,
        show '+'.utf8Size = 1 from rfl]
      omega

theorem readBytes_eq_ok_iff {text : String} {bytes : Bytes} :
    readBytes text = .ok bytes ↔ ReadPairs ((tokens text.toList).map dropRadix).flatten bytes := by
  rw [← readPairs_eq_some_iff, readBytes, List.flatMap_def]
  generalize ((tokens text.toList).map dropRadix).flatten = digits
  constructor
  · intro read
    split_ifs at read with odd
    split at read
    · cases read
      assumption
    · cases read
  · intro read
    have even : ¬ utf8Length digits % 2 = 1 := by
      rw [(readPairs_eq_some_iff.mp read).utf8Length]
      omega
    rw [if_neg even, read]

/-! ## Texts -/

theorem Cut.subset {chars : List Char} {pieces : List (List Char)} (cut : Cut chars pieces) :
    ∀ piece ∈ pieces, piece ⊆ chars := by
  induction cut with
  | last => simp
  | next _ _ _ ih =>
      refine List.forall_mem_cons.mpr ⟨List.subset_append_left _ _, fun piece there => ?_⟩
      exact List.subset_append_of_subset_right _ (List.subset_cons_of_subset _ (ih piece there))

theorem dropRadix_subset (token : List Char) : dropRadix token ⊆ token := by
  unfold dropRadix
  split
  case h_1 rest => exact List.subset_cons_of_subset _ (List.subset_cons_self _ rest)
  case h_2 rest => exact List.subset_cons_of_subset _ (List.subset_cons_self _ rest)
  case h_3 => exact List.Subset.refl token

open CommandLine.Report in
theorem readInput_eq_ok_iff {text : String} {bytes : Bytes} :
    readInput (some text) = .ok bytes ↔ readBytes text = .ok bytes := by
  rw [readInput]
  cases readBytes text <;> simp [Except.mapError]

open CommandLine.Report in
/-- **Every text that spells bytes is read as these**, and what else is read takes a plus sign, or
tokens of odd length, that are joined. -/
theorem hex_text_read (text : String) :
    (∀ bytes, readInput (some text) = .ok bytes ↔
      ∃ pieces, Cut text.toList pieces ∧ ReadPairs (pieces.map dropRadix).flatten bytes) ∧
    (∀ bytes, Spells text bytes → readInput (some text) = .ok bytes) ∧
    ('+' ∉ text.toList →
      (∀ pieces, Cut text.toList pieces → ∀ piece ∈ pieces, (dropRadix piece).length % 2 = 0) →
      ∀ bytes, readInput (some text) = .ok bytes → Spells text bytes) ∧
    ((∀ bytes, readInput (some text) ≠ .ok bytes) →
      ∃ fault, readInput (some text) = .error (.hexPayload text fault)) := by
  have read (bytes : Bytes) : readInput (some text) = .ok bytes ↔
      ∃ pieces, Cut text.toList pieces ∧ ReadPairs (pieces.map dropRadix).flatten bytes := by
    rw [readInput_eq_ok_iff, readBytes_eq_ok_iff]
    constructor
    · exact fun pairs => ⟨_, cut_tokens _, pairs⟩
    · rintro ⟨pieces, cut, pairs⟩
      rwa [tokens_eq_iff.mpr cut]
  refine ⟨read, ?_, ?_, ?_⟩
  · rintro bytes ⟨pieces, parts, cut, each, rfl⟩
    exact (read _).mpr ⟨pieces, cut, (HexPairs.flatten each).read⟩
  · intro unsigned even bytes done
    obtain ⟨pieces, cut, pairs⟩ := (read bytes).mp done
    have unsigned' : '+' ∉ (pieces.map dropRadix).flatten := by
      simp only [List.mem_flatten, List.mem_map, not_exists, not_and]
      rintro _ ⟨piece, there, rfl⟩ plus
      exact unsigned (cut.subset piece there (dropRadix_subset piece plus))
    have whole : ∀ token ∈ pieces.map dropRadix, token.length % 2 = 0 :=
      List.forall_mem_map.mpr (even pieces cut)
    obtain ⟨parts, each, rfl⟩ := (pairs.hexPairs unsigned').parts whole
    exact ⟨pieces, parts, cut, each, rfl⟩
  · intro refused
    rcases outcome : readBytes text with fault | bytes
    · exact ⟨fault, by rw [readInput, outcome]; rfl⟩
    · exact absurd (readInput_eq_ok_iff.mpr outcome) (refused bytes)

open CommandLine.Report in
/-- A sign in front of a digit makes a byte, and so do two digits of different tokens, though
neither text spells any bytes. -/
theorem misspelled_texts_read :
    (readInput (some "+f") = .ok [0x0f] ∧ ¬ ∃ bytes, Spells "+f" bytes) ∧
    readInput (some "1 2") = .ok [0x12] ∧ ¬ ∃ bytes, Spells "1 2" bytes := by
  refine ⟨⟨by decide, ?_⟩, by decide, ?_⟩
  · rintro ⟨_, pieces, parts, cut, each, -⟩
    obtain rfl : [['+', 'f']] = pieces := tokens_eq_iff.mpr cut
    obtain ⟨_, _, pair, -, -⟩ := List.forall₂_cons_left_iff.mp each
    obtain - | ⟨first, -, -⟩ := pair
    exact not_isDigit_plus first
  · rintro ⟨_, pieces, parts, cut, each, -⟩
    obtain rfl : [['1'], ['2']] = pieces := tokens_eq_iff.mpr cut
    obtain ⟨_, _, pair, -, -⟩ := List.forall₂_cons_left_iff.mp each
    cases pair

end CxlMailbox.Text
