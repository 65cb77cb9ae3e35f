/-
# CxlMailbox.Proofs.Text.Rendering — bytes written as hexadecimal text are read back

There are many ways to write bytes.  `Renders` has them all: tokens of digit pairs, in either case
and with a radix in front or none, and separators wherever no token is.  Whatever way is taken, the
joined tokens are the digit pairs of the bytes (`Renders.joined`), so they are read as these.

A dump writes one of these texts a line, behind an address:

* `dump_line`: line `i` is the address of byte `16 * i`, exact, and then the bytes from there on;
* `linesOf_printedLines`: the lines are told from what was printed, and `Address.unique` the address
  from its text, so what is printed determines the bytes and where they are.
-/
import CxlMailbox.Proofs.Effect
import CxlMailbox.Proofs.Text.HexBytes

namespace CxlMailbox.Text

set_option autoImplicit false

/-! ## Ways of writing bytes -/

/-- A token: digit pairs, with a radix in front of them or none. -/
inductive Token : List Char → Bytes → Prop
  | bare {digits : List Char} {bytes : Bytes} (pairs : HexPairs digits bytes) : Token digits bytes
  | lower {digits : List Char} {bytes : Bytes} (pairs : HexPairs digits bytes) :
      Token ('0' :: 'x' :: digits) bytes
  | upper {digits : List Char} {bytes : Bytes} (pairs : HexPairs digits bytes) :
      Token ('0' :: 'X' :: digits) bytes

/-- The text is tokens that write the bytes, with separators between each two of them, and any
number of these in front, between and behind. -/
inductive Renders : List Char → Bytes → Prop
  | nil : Renders [] []
  | separator {c : Char} {rest : List Char} {bytes : Bytes} (separates : isSeparator c = true)
      (more : Renders rest bytes) : Renders (c :: rest) bytes
  | token {token rest : List Char} {here later : Bytes} (written : Token token here)
      (ends : ∀ c ∈ rest.head?, isSeparator c = true) (more : Renders rest later) :
      Renders (token ++ rest) (here ++ later)

/-! ### Characters -/

theorem isSeparator_eq_false {c : Char} (code : 48 ≤ c.toNat ∧ c.toNat ≤ 122)
    (colon : c ≠ ':') : isSeparator c = false := by
  have other (d : Char) (apart : c ≠ d) : (c == d) = false := beq_false_of_ne apart
  have comma : c ≠ ',' := by
    rintro rfl
    exact absurd code.1 (by decide)
  have blank : isBlank c = false := by
    simp only [isBlank, inRanges, blankRanges, List.any_cons, List.any_nil, Bool.or_false,
      Bool.or_eq_false_iff, Bool.and_eq_false_iff, decide_eq_false_iff_not]
    omega
  rw [isSeparator, blank, other _ comma, other _ colon]
  rfl

theorem IsDigit.plain {radix value : Nat} {c : Char} (digit : IsDigit radix c value) :
    isSeparator c = false := by
  have code := (digitValue?_eq_some_iff_code.mp (digitValue?_eq_some_iff.mpr digit)).2
  refine isSeparator_eq_false (by omega) ?_
  rintro rfl
  revert code
  simp

theorem HexPairs.plain {digits : List Char} {bytes : Bytes} (pairs : HexPairs digits bytes) :
    ∀ c ∈ digits, isSeparator c = false := by
  induction pairs with
  | nil => exact nofun
  | cons first second _ ih =>
      exact List.forall_mem_cons.mpr ⟨first.plain, List.forall_mem_cons.mpr ⟨second.plain, ih⟩⟩

theorem Token.plain {token : List Char} {bytes : Bytes} (written : Token token bytes) :
    ∀ c ∈ token, isSeparator c = false := by
  cases written with
  | bare pairs => exact pairs.plain
  | lower pairs | upper pairs =>
      exact List.forall_mem_cons.mpr ⟨rfl, List.forall_mem_cons.mpr ⟨rfl, pairs.plain⟩⟩

theorem dropRadix_of_digit {radix value : Nat} (few : radix ≤ 16) {high low : Char}
    (digit : IsDigit radix low value) (rest : List Char) :
    dropRadix (high :: low :: rest) = high :: low :: rest := by
  unfold dropRadix
  split
  case h_1 same =>
    cases same
    exact absurd digit (not_isDigit_x few (.inl rfl))
  case h_2 same =>
    cases same
    exact absurd digit (not_isDigit_x few (.inr rfl))
  case h_3 => rfl

/-- Without its radix, a token is its digit pairs. -/
theorem Token.dropRadix {token : List Char} {bytes : Bytes} (written : Token token bytes) :
    HexPairs (dropRadix token) bytes := by
  cases written with
  | lower pairs | upper pairs => exact pairs
  | bare pairs =>
      -- Only the second character could make a radix of the first two.
      cases pairs with
      | nil => exact .nil
      | cons first second more =>
          rw [dropRadix_of_digit (Nat.le_refl 16) second]
          exact .cons first second more

/-! ### Joined tokens -/

/-- The tokens of a text without their radixes, one behind the other. -/
def joined (chars : List Char) : List Char := ((tokens chars).map dropRadix).flatten

theorem joined_separator {c : Char} (separates : isSeparator c = true) (rest : List Char) :
    joined (c :: rest) = joined rest := by
  have none_ : ∀ c ∈ ([] : List Char), isSeparator c = false := nofun
  have cut : tokens (c :: rest) = [] :: tokens rest :=
    List.splitOnP_append_cons_of_forall_mem none_ c separates rest
  rw [joined, cut]
  rfl

theorem joined_token {token rest : List Char} (plain : ∀ c ∈ token, isSeparator c = false)
    (ends : ∀ c ∈ rest.head?, isSeparator c = true) :
    joined (token ++ rest) = dropRadix token ++ joined rest := by
  cases rest with
  | nil =>
      rw [List.append_nil, joined, tokens, List.splitOnP_eq_singleton plain]
      rfl
  | cons c rest =>
      have separates := ends c rfl
      rw [joined_separator separates, joined, tokens,
        List.splitOnP_append_cons_of_forall_mem plain c separates]
      rfl

theorem Renders.joined {text : List Char} {bytes : Bytes} (renders : Renders text bytes) :
    HexPairs (joined text) bytes := by
  induction renders with
  | nil => exact .nil
  | separator separates _ ih =>
      rw [joined_separator separates]
      exact ih
  | token written ends _ ih =>
      rw [joined_token written.plain ends]
      exact written.dropRadix.append ih

/-- Bytes are read back, whatever way they were written. -/
theorem Renders.read {text : String} {bytes : Bytes} (renders : Renders text.toList bytes) :
    readBytes text = .ok bytes :=
  readBytes_eq_ok_iff.mpr renders.joined.read

/-! ## Dumps -/

/-- The text is an address: hexadecimal digits in lower case, at least eight of them, and no more
than the address takes. -/
structure Address (value : Nat) (text : String) : Prop where
  number : IsNumber 16 text.toList value
  lower : text.toList ⊆ lowerDigits
  wide : 8 ≤ text.length
  shortest : 8 < text.length → text.toList.head? ≠ some '0'

/-- A line of a dump: an address, a colon and a blank, and a text that is read as the bytes. -/
def DumpLine (address : Nat) (bytes : Bytes) (line : String) : Prop :=
  ∃ front text, line = front ++ ": " ++ text ∧ Address address front ∧ readBytes text = .ok bytes

theorem address_hexDigits (value : Nat) : Address value (hexDigits 8 value) where
  number := isNumber_hexDigits 8 value
  lower := by
    rw [toList_hexDigits]
    refine List.append_subset.mpr ⟨fun c zero => ?_, toDigits_subset (by decide) (by decide) value⟩
    rw [(List.mem_replicate.mp zero).2]
    decide
  wide := by
    rw [← String.length_toList, toList_hexDigits, List.length_append, List.length_replicate]
    omega
  shortest := by
    intro long
    have positive : value ≠ 0 := by
      rintro rfl
      exact absurd long (by decide)
    rw [← String.length_toList, toList_hexDigits, List.length_append, List.length_replicate] at long
    have unfilled : 8 - (Nat.toDigits 16 value).length = 0 := by omega
    rw [toList_hexDigits, unfilled]
    exact head?_toDigits (by decide) positive

/-! ### The text of a line -/

theorem hexPairs_hexPair (byte : UInt8) : HexPairs (hexPair byte) [byte] := by
  have digit : ∀ v < 16, lowerDigits[v]? = some (hexDigit v) := by decide
  have small := byte.toNat_lt
  have high : IsDigit 16 (hexDigit (byte.toNat / 16)) (byte.toNat / 16) :=
    ⟨by omega, .inl (digit _ (by omega))⟩
  have low : IsDigit 16 (hexDigit (byte.toNat % 16)) (byte.toNat % 16) :=
    ⟨by omega, .inl (digit _ (by omega))⟩
  have whole : UInt8.ofNat (16 * (byte.toNat / 16) + byte.toNat % 16) = byte := by
    rw [Nat.div_add_mod, UInt8.ofNat_toNat]
  have pairs := HexPairs.cons high low .nil
  rwa [whole] at pairs

theorem toList_spacedPairs (bytes : Bytes) :
    (spacedPairs bytes).toList = [' '].intercalate (bytes.map hexPair) := by
  rw [spacedPairs, String.toList_intercalate, List.map_map]
  congr 1
  exact List.map_congr_left fun byte _ => String.toList_ofList

/-- Digit pairs with blanks between them are a way to write bytes. -/
theorem renders_spacedPairs (bytes : Bytes) : Renders (spacedPairs bytes).toList bytes := by
  rw [toList_spacedPairs]
  induction bytes with
  | nil => exact .nil
  | cons byte rest ih =>
      have token : Token (hexPair byte) [byte] := .bare (hexPairs_hexPair byte)
      cases rest with
      | nil => exact (Renders.token token nofun .nil : Renders (hexPair byte ++ []) _)
      | cons next rest =>
          rw [List.map_cons, List.map_cons, List.intercalate_cons_cons, List.append_assoc]
          exact .token token (by rintro c ⟨⟩; rfl) (.separator rfl ih)

theorem dumpLines_getElem? (base lines offset : Nat) (data : Bytes) (i : Nat) :
    (dumpLines base lines offset data)[i]? = if i < lines then
        some (hexDigits 8 (base + (offset + 16 * i)) ++ ": " ++
          spacedPairs (Bytes.slice data (16 * i) 16))
      else none := by
  induction lines generalizing offset data i with
  | zero => rfl
  | succ lines ih =>
      cases i with
      | zero => rfl
      | succ i =>
          rw [dumpLines, List.getElem?_cons_succ, ih]
          have later : offset + 16 + 16 * i = offset + 16 * (i + 1) := by omega
          have behind : 16 + 16 * i = 16 * (i + 1) := by omega
          simp only [later, Bytes.slice, List.drop_drop, behind, Nat.add_lt_add_iff_right]

theorem length_dump (data : Bytes) (base : UInt32) :
    (dump data base).length = (data.length + 15) / 16 := by
  have general (base lines offset : Nat) (data : Bytes) :
      (dumpLines base lines offset data).length = lines := by
    induction lines generalizing offset data with
    | zero => rfl
    | succ lines ih => rw [dumpLines, List.length_cons, ih]
  exact general _ _ _ _

/-- Line `i` is at the address of byte `16 * i` and has sixteen bytes from there on, or what is
left of them. -/
theorem dump_line {data : Bytes} {base : UInt32} {i : Nat} {line : String}
    (at_ : (dump data base)[i]? = some line) :
    DumpLine (base.toNat + 16 * i) (Bytes.slice data (16 * i) 16) line := by
  rw [dump, dumpLines_getElem?] at at_
  split at at_
  case isTrue =>
    rw [Nat.zero_add] at at_
    exact ⟨_, _, (Option.some.inj at_).symm, address_hexDigits _, (renders_spacedPairs _).read⟩
  case isFalse => cases at_

/-! ### What is printed -/

/-- Lines, each with its end. -/
def printedLines (lines : List String) : String := String.join (lines.map (· ++ "\n"))

theorem toList_printedLines_cons (line : String) (lines : List String) :
    (printedLines (line :: lines)).toList =
      line.toList ++ '\n' :: (printedLines lines).toList := by
  rw [printedLines, List.map_cons, String.join_cons, String.toList_append, String.toList_append,
    List.append_assoc]
  rfl

/-- Lines that have no end within are told from what was printed. -/
theorem linesOf_printedLines {lines : List String} (whole : ∀ line ∈ lines, '\n' ∉ line.toList) :
    (printedLines lines).toList.splitOnP (· == '\n') = lines.map String.toList ++ [[]] := by
  induction lines with
  | nil => rfl
  | cons line lines ih =>
      obtain ⟨here, later⟩ := List.forall_mem_cons.mp whole
      have plain : ∀ c ∈ line.toList, (c == '\n') = false :=
        fun c there => beq_false_of_ne fun same => here (same ▸ there)
      rw [toList_printedLines_cons,
        List.splitOnP_append_cons_of_forall_mem plain _ (beq_self_eq_true _), ih later]
      rfl

theorem printedLines_injective {lines lines' : List String}
    (whole : ∀ line ∈ lines, '\n' ∉ line.toList) (whole' : ∀ line ∈ lines', '\n' ∉ line.toList)
    (same : printedLines lines = printedLines lines') : lines = lines' := by
  have split := (linesOf_printedLines whole).symm.trans
    ((congrArg _ (congrArg String.toList same)).trans (linesOf_printedLines whole'))
  exact List.map_injective_iff.mpr (fun _ _ => String.toList_injective)
    (List.append_cancel_right split)

theorem newline_notMem_spacedPairs (bytes : Bytes) : '\n' ∉ (spacedPairs bytes).toList := by
  rw [toList_spacedPairs]
  have digits (byte : UInt8) : '\n' ∉ hexPair byte := fun inside =>
    absurd ((hexPairs_hexPair byte).plain _ inside) (by decide)
  induction bytes with
  | nil => exact nofun
  | cons byte rest ih =>
      cases rest with
      | nil => exact digits byte
      | cons next rest =>
          rw [List.map_cons, List.map_cons, List.intercalate_cons_cons]
          simp only [List.mem_append, not_or]
          exact ⟨⟨digits byte, by decide⟩, ih⟩

theorem newline_notMem_dump {data : Bytes} {base : UInt32} :
    ∀ line ∈ dump data base, '\n' ∉ line.toList := by
  intro line there
  obtain ⟨i, at_⟩ := List.mem_iff_getElem?.mp there
  rw [dump, dumpLines_getElem?] at at_
  split at at_
  case isTrue =>
    cases at_
    simp only [String.toList_append, List.mem_append, not_or]
    exact ⟨⟨fun inside => absurd ((address_hexDigits _).lower inside) (by decide), by decide⟩,
      newline_notMem_spacedPairs _⟩
  case isFalse => cases at_

/-! ### What a dump determines -/

/-- A line is at one address only, and has the bytes of one list only. -/
theorem DumpLine.unique {address address' : Nat} {bytes bytes' : Bytes} {line : String}
    (here : DumpLine address bytes line) (here' : DumpLine address' bytes' line) :
    address = address' ∧ bytes = bytes' := by
  obtain ⟨front, text, rfl, spelled, read⟩ := here
  obtain ⟨front', text', same, spelled', read'⟩ := here'
  have front_of {value : Nat} {front : String} (spelled : Address value front) (text : String) :
      (front ++ ": " ++ text).toList.takeWhile (· ≠ ':') = front.toList := by
    have plain : ∀ c ∈ front.toList, decide (c ≠ ':') = true := by
      intro c inside
      refine decide_eq_true fun colon => ?_
      exact absurd (colon ▸ spelled.lower inside) (by decide)
    rw [String.toList_append, String.toList_append, List.append_assoc,
      List.takeWhile_append_of_pos plain]
    exact List.append_nil _
  have fronts : front = front' := String.toList_injective
    ((front_of spelled text).symm.trans (same ▸ front_of spelled' text'))
  subst fronts
  obtain rfl : text = text' := by simpa using same
  exact ⟨spelled.number.unique spelled'.number, Except.ok.inj (read.symm.trans read')⟩

/-- Bytes are known from their slices of sixteen. -/
theorem eq_of_slices {data data' : Bytes}
    (same : ∀ i, Bytes.slice data (16 * i) 16 = Bytes.slice data' (16 * i) 16) : data = data' := by
  have read (data : Bytes) (k : Nat) :
      (Bytes.slice data (16 * (k / 16)) 16)[k % 16]? = data[k]? := by
    have inside : k % 16 < 16 := Nat.mod_lt k (by decide)
    rw [Bytes.slice, List.getElem?_take_of_lt inside, List.getElem?_drop, Nat.div_add_mod]
  apply List.ext_getElem?
  intro k
  rw [← read data, same, read]

/-- The bytes and the address of a dump are known from what was printed; nothing is printed of no
bytes. -/
theorem dump_determines {data data' : Bytes} {base base' : UInt32}
    (same : printedLines (dump data base) = printedLines (dump data' base')) :
    data = data' ∧ (data = [] ∨ base = base') := by
  have lines : dump data base = dump data' base' :=
    printedLines_injective newline_notMem_dump newline_notMem_dump same
  have length := congrArg List.length lines
  rw [length_dump, length_dump] at length
  have each {i : Nat} (inside : i < (data.length + 15) / 16) :
      base.toNat + 16 * i = base'.toNat + 16 * i ∧
        Bytes.slice data (16 * i) 16 = Bytes.slice data' (16 * i) 16 := by
    have at_ : (dump data base)[i]? = some _ :=
      List.getElem?_eq_getElem (by rw [length_dump]; exact inside)
    exact (dump_line at_).unique (dump_line (lines ▸ at_))
  constructor
  · refine eq_of_slices fun i => ?_
    by_cases inside : i < (data.length + 15) / 16
    · exact (each inside).2
    · rw [Bytes.slice, Bytes.slice, List.drop_of_length_le (by omega),
        List.drop_of_length_le (by omega)]
  · rcases Nat.eq_zero_or_pos data.length with none_ | some_
    · exact .inl (List.length_eq_zero_iff.mp none_)
    · have first := (each (i := 0) (by omega)).1
      exact .inr (UInt32.toNat_inj.mp first)

theorem print_lines {δ ε : Type} (lines : List String) (world : World δ) :
    (lines.forM Task.print : Task δ ε Unit) world =
      (.ok (), { world with printed := world.printed ++ printedLines lines }) := by
  induction lines generalizing world with
  | nil => rw [printedLines, List.map_nil, String.join_nil, String.append_empty]; rfl
  | cons line lines ih =>
      have printed : (Task.print line : Task δ ε Unit) world =
          (.ok (), { world with printed := world.printed ++ line ++ "\n" }) := rfl
      change (Task.print line >>= fun _ => lines.forM Task.print) world = _
      rw [Effect.bind_ok printed, ih]
      simp only [printedLines, List.map_cons, String.join_cons, String.append_assoc]

open CommandLine in
/-- **Bytes that were written as hexadecimal text are read back**, whatever way they were written.
A dump prints one such text a line, in order and behind exact addresses, so what it prints tells
the bytes and, if there are any, the address of the first of them. -/
theorem hex_renderings_read_back {δ : Type} (data : Bytes) (base : UInt32) :
    (∀ text : String, Renders text.toList data → readBytes text = .ok data) ∧
    (∀ world : World δ, Report.dump data base world =
      (.ok (), { world with printed := world.printed ++ printedLines (dump data base) })) ∧
    (dump data base).length = (data.length + 15) / 16 ∧
    (∀ i line, (dump data base)[i]? = some line →
      DumpLine (base.toNat + 16 * i) (Bytes.slice data (16 * i) 16) line) ∧
    ∀ data' base', printedLines (dump data base) = printedLines (dump data' base') →
      data = data' ∧ (data = [] ∨ base = base') :=
  ⟨fun _ renders => renders.read, print_lines _, length_dump data base, fun _ _ => dump_line,
    fun _ _ => dump_determines⟩

/-- Separators of every kind, both radixes and digits of both cases; and a dump whose second line
is behind the last 32-bit address. -/
theorem mixed_rendering_read_back :
    (Renders "\t0x0Aff,:0Xb0 ".toList [0x0a, 0xff, 0xb0] ∧
      readBytes "\t0x0Aff,:0Xb0 " = .ok [0x0a, 0xff, 0xb0]) ∧
    (dump (Bytes.zeros 17) 0xfffffff8)[1]? = some "100000008: 00" ∧
      DumpLine 0x100000008 [0] "100000008: 00" := by
  have first : Token "0x0Aff".toList [0x0a, 0xff] :=
    .lower ((readPairs_eq_some_iff.mp (by decide)).hexPairs (by decide))
  have last : Token "0Xb0".toList [0xb0] :=
    .upper ((readPairs_eq_some_iff.mp (by decide)).hexPairs (by decide))
  have renders : Renders "\t0x0Aff,:0Xb0 ".toList [0x0a, 0xff, 0xb0] :=
    .separator rfl (.token first (by rintro c ⟨⟩; rfl)
      (.separator rfl (.separator rfl (.token last (by rintro c ⟨⟩; rfl) (.separator rfl .nil)))))
  have second : (dump (Bytes.zeros 17) 0xfffffff8)[1]? = some "100000008: 00" := by decide
  exact ⟨⟨renders, (hex_renderings_read_back (δ := Unit) _ 0).1 _ renders⟩, second,
    (hex_renderings_read_back (δ := Unit) _ _).2.2.2.1 1 _ second⟩

end CxlMailbox.Text
