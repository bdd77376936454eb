import TwoFactorLogin.Proofs.SecretGrammar

/-!
# Secrets as they are typed

A key is shown as the base32 encoding of its bytes, and people type it with small letters, in groups
with spaces between them, and without the filling. However it is typed, it is read as the key
(`decodeSecret_of_retyped`).

The digits of an encoding hold the bits of the key and then fewer than five zeros, which fill the
last digit (`flatMap_quintets`). Reading takes bytes from the front (`octets_flatMap_bits`), and
fewer than eight bits are no byte, so the zeros drop out. How many digits the last group of an
encoding has follows from the number of bytes, and so does its filling (`filling?_digitsOf`).
-/

namespace TwoFactorLogin.Base32

/-! ## Ways of typing -/

/-- A row of characters as it is typed: letters in either case, and spaces anywhere. -/
inductive Typed : List Char → List Char → Prop
  | nil : Typed [] []
  | same {c : Char} {cs typed : List Char} (h : Typed cs typed) : Typed (c :: cs) (c :: typed)
  | small {c : Char} {cs typed : List Char} (h : Typed cs typed) :
    Typed (c :: cs) (c.toLower :: typed)
  | space {cs typed : List Char} (h : Typed cs typed) : Typed cs (' ' :: typed)

/-- A text is the encoding of some bytes as it is typed, with a part of its filling left out. -/
def Retyped (bytes : List UInt8) (text : String) : Prop :=
  ∃ kept count, encode bytes = kept ++ List.replicate count '=' ∧ Typed kept text.toList

/-! ## Numbers and their bits -/

theorem ofBits_append_singleton (bs : List Bool) (b : Bool) :
    ofBits (bs ++ [b]) = 2 * ofBits bs + b.toNat := by
  simp [ofBits]

theorem bits_succ (width n : Nat) : bits (width + 1) n = bits width (n / 2) ++ [n.testBit 0] := by
  induction width with
  | zero => rfl
  | succ width ih =>
    rw [bits, ih, bits, List.cons_append, Nat.testBit_succ]

theorem ofBits_lt (bs : List Bool) : ofBits bs < 2 ^ bs.length := by
  induction bs using List.reverseRecOn with
  | nil => decide
  | append_singleton bs b ih =>
    have hb := b.toNat_le
    rw [ofBits_append_singleton, List.length_append, List.length_singleton, Nat.pow_succ]
    omega

theorem bits_ofBits (bs : List Bool) : bits bs.length (ofBits bs) = bs := by
  induction bs using List.reverseRecOn with
  | nil => rfl
  | append_singleton bs b ih =>
    have hhalf : (2 * ofBits bs + b.toNat) / 2 = ofBits bs := by
      have hb := b.toNat_le
      omega
    have hlast : (2 * ofBits bs + b.toNat).testBit 0 = b := by
      cases b <;> simp [Nat.testBit_zero]
    rw [ofBits_append_singleton, List.length_append, List.length_singleton, bits_succ, hhalf, hlast,
      ih]

theorem ofBits_bits {width n : Nat} (h : n < 2 ^ width) : ofBits (bits width n) = n := by
  induction width generalizing n with
  | zero =>
    rw [Nat.pow_zero] at h
    rw [bits, show n = 0 by omega]
    rfl
  | succ width ih =>
    rw [Nat.pow_succ] at h
    have hlast : (n.testBit 0).toNat = n % 2 := by
      rw [Nat.testBit_zero]
      rcases Nat.mod_two_eq_zero_or_one n with hn | hn <;> simp [hn]
    rw [bits_succ, ofBits_append_singleton, ih (by omega), hlast]
    omega

/-! ## Bytes and digits -/

/-- The bytes in the bits of some bytes are these bytes, whatever rest follows. -/
theorem octets_flatMap_bits (bytes : List UInt8) {rest : List Bool} (h : rest.length < 8) :
    octets (bytes.flatMap (fun b => bits 8 b.toNat) ++ rest) = bytes := by
  induction bytes with
  | nil =>
    refine List.eq_nil_of_length_eq_zero ?_
    rw [List.flatMap_nil, List.nil_append, length_octets, Nat.div_eq_of_lt h]
  | cons b bytes ih =>
    have hfirst (bs : List Bool) :
        octets (bits 8 b.toNat ++ bs) = UInt8.ofNat (ofBits (bits 8 b.toNat)) :: octets bs := rfl
    rw [List.flatMap_cons, List.append_assoc, hfirst, ih, ofBits_bits b.toNat_lt, UInt8.ofNat_toNat]

/-- The last group of bits is not empty and not full. -/
theorem length_of_not_full {bs : List Bool} (hne : bs ≠ [])
    (h : ∀ a b c d e rest, bs ≠ a :: b :: c :: d :: e :: rest) :
    0 < bs.length ∧ bs.length < 5 := by
  refine ⟨List.length_pos_iff.2 hne, ?_⟩
  rcases bs with _ | ⟨a, _ | ⟨b, _ | ⟨c, _ | ⟨d, _ | ⟨e, rest⟩⟩⟩⟩⟩
  case cons.cons.cons.cons.cons => exact (h a b c d e rest rfl).elim
  all_goals simp

/-- The digits of a row of bits hold these bits and fewer than five zeros. -/
theorem flatMap_quintets (bs : List Bool) :
    ∃ count < 5, (quintets bs).flatMap (bits 5) = bs ++ List.replicate count false := by
  fun_induction quintets bs with
  | case1 => exact ⟨0, by decide, rfl⟩
  | case2 a b c d e rest ih =>
    obtain ⟨count, hcount, ih⟩ := ih
    have hfirst : bits 5 (ofBits [a, b, c, d, e]) = [a, b, c, d, e] := bits_ofBits [a, b, c, d, e]
    refine ⟨count, hcount, ?_⟩
    rw [List.flatMap_cons, ih, hfirst]
    rfl
  | case3 rest hne hnot =>
    obtain ⟨hpos, hlt⟩ := length_of_not_full hne hnot
    have hlast := bits_ofBits (rest ++ List.replicate (5 - rest.length) false)
    rw [List.length_append, List.length_replicate, Nat.add_sub_of_le hlt.le] at hlast
    exact ⟨5 - rest.length, by omega, by rw [List.flatMap_singleton, hlast]⟩

theorem length_quintets (bs : List Bool) : (quintets bs).length = (bs.length + 4) / 5 := by
  obtain ⟨count, hcount, h⟩ := flatMap_quintets bs
  have hlength := congrArg List.length h
  rw [length_flatMap_bits, List.length_append, List.length_replicate] at hlength
  omega

theorem quintets_lt (bs : List Bool) : ∀ v ∈ quintets bs, v < 32 := by
  fun_induction quintets bs with
  | case1 => simp
  | case2 a b c d e rest ih =>
    rw [List.forall_mem_cons]
    exact ⟨ofBits_lt [a, b, c, d, e], ih⟩
  | case3 rest hne hnot =>
    obtain ⟨-, hlt⟩ := length_of_not_full hne hnot
    have hlast := ofBits_lt (rest ++ List.replicate (5 - rest.length) false)
    rw [List.length_append, List.length_replicate, Nat.add_sub_of_le hlt.le] at hlast
    rwa [List.forall_mem_singleton]

theorem digitValues?_map_digit {values : List Nat} (h : ∀ v ∈ values, v < 32) :
    digitValues? (values.map digit) = some values := by
  induction values with
  | nil => rfl
  | cons v values ih =>
    rw [List.forall_mem_cons] at h
    simp [digitValues?, (digitValue?_digit v h.1).1, ih h.2]

/-! ## Encodings -/

/-- The digits of some bytes. -/
def digitsOf (bytes : List UInt8) : List Char :=
  (quintets (bytes.flatMap fun b => bits 8 b.toNat)).map digit

theorem encode_eq (bytes : List UInt8) :
    encode bytes =
      digitsOf bytes ++ List.replicate (fillLength (digitsOf bytes).length) '=' :=
  rfl

/-- A row of bits is read back from its digits up to fewer than five zeros, so its bytes are. -/
theorem octets_digitsOf (bytes : List UInt8) :
    ∃ values, digitValues? (digitsOf bytes) = some values ∧
      octets (values.flatMap (bits 5)) = bytes := by
  refine ⟨_, digitValues?_map_digit (quintets_lt _), ?_⟩
  obtain ⟨count, hcount, h⟩ := flatMap_quintets (bytes.flatMap fun b => bits 8 b.toNat)
  have hrest : (List.replicate count false).length < 8 := by
    rw [List.length_replicate]
    omega
  rw [h, octets_flatMap_bits bytes hrest]

theorem mem_alphabet_of_mem_digitsOf {bytes : List UInt8} : ∀ c ∈ digitsOf bytes, c ∈ alphabet := by
  obtain ⟨values, hvalues, -⟩ := octets_digitsOf bytes
  exact exists_digitValues?_iff.1 ⟨values, hvalues⟩

theorem length_digitsOf (bytes : List UInt8) :
    (digitsOf bytes).length = (8 * bytes.length + 4) / 5 := by
  have hbits : (bytes.flatMap fun b => bits 8 b.toNat).length = 8 * bytes.length := by
    rw [← List.flatMap_map UInt8.toNat (bits 8), length_flatMap_bits, List.length_map]
  rw [digitsOf, List.length_map, length_quintets, hbits]

theorem filling?_digitsOf (bytes : List UInt8) :
    filling? ((digitsOf bytes).length % 8) = some (fillLength (digitsOf bytes).length) := by
  rw [length_digitsOf, fillLength]
  generalize hr : (8 * bytes.length + 4) / 5 % 8 = r
  have hmem : r = 0 ∨ r = 2 ∨ r = 4 ∨ r = 5 ∨ r = 7 := by omega
  rcases hmem with rfl | rfl | rfl | rfl | rfl <;> rfl

/-- An encoding without a part of its filling is a spelling. -/
theorem spelling_of_encode {bytes : List UInt8} (hne : bytes ≠ []) {kept : List Char} {count : Nat}
    (h : encode bytes = kept ++ List.replicate count '=') : Spelling kept (digitsOf bytes) where
  ne_nil hnil := by
    have hlength := length_digitsOf bytes
    have hpos := List.length_pos_iff.2 hne
    rw [hnil, List.length_nil] at hlength
    omega
  digits_mem := mem_alphabet_of_mem_digitsOf
  filled := by
    refine ⟨fillLength (digitsOf bytes).length, ?_⟩
    rw [encode_eq] at h
    obtain ⟨left, rfl, hleft⟩ | ⟨tail, htail, hcount⟩ := List.append_eq_append_iff.1 h
    · obtain ⟨hlength, hfill, -⟩ := List.append_eq_replicate_iff.1 hleft.symm
      exact ⟨left.length, filling?_digitsOf bytes, by omega, by rw [← hfill]⟩
    · -- No digit is a filling character, so no more than the filling was left out.
      obtain ⟨-, hfill, -⟩ := List.append_eq_replicate_iff.1 hcount.symm
      obtain rfl : tail = [] := by
        refine List.eq_nil_iff_forall_not_mem.2 fun c hc => ?_
        have hdigit : c ∈ digitsOf bytes := htail ▸ List.mem_append_right _ hc
        exact ne_fill_of_mem (mem_alphabet_of_mem_digitsOf c hdigit)
          ((List.eq_replicate_iff.1 hfill).2 c hc)
      exact ⟨0, filling?_digitsOf bytes, Nat.zero_le _, by simpa using htail.symm⟩

/-! ## Reading what was typed -/

/-- Digits and filling are their own capitals, and the letters are those of their small forms. -/
theorem upperChar_of_mem {c : Char} (hc : c ∈ alphabet ∨ c = '=') :
    (c != ' ') = true ∧ Text.upperChar c = [c] ∧
      (c.toLower != ' ') = true ∧ Text.upperChar c.toLower = [c] := by
  have hall := alphabet_induction (p := fun c => c != ' ' && Text.upperChar c == [c] &&
    (c.toLower != ' ' && Text.upperChar c.toLower == [c])) (by decide) hc
  simpa only [Bool.and_eq_true, beq_iff_eq, and_assoc] using hall

theorem upperChars_filter_of_typed {kept typed : List Char} (h : Typed kept typed)
    (hkept : ∀ c ∈ kept, c ∈ alphabet ∨ c = '=') :
    Text.upperChars (typed.filter (· != ' ')) = kept := by
  induction h with
  | nil => rfl
  | @same c cs typed h ih =>
    rw [List.forall_mem_cons] at hkept
    obtain ⟨hspace, hupper, -⟩ := upperChar_of_mem hkept.1
    rw [List.filter_cons, if_pos hspace, Text.upperChars, List.flatMap_cons, hupper]
    exact congrArg _ (ih hkept.2)
  | @small c cs typed h ih =>
    rw [List.forall_mem_cons] at hkept
    obtain ⟨-, -, hspace, hupper⟩ := upperChar_of_mem hkept.1
    rw [List.filter_cons, if_pos hspace, Text.upperChars, List.flatMap_cons, hupper]
    exact congrArg _ (ih hkept.2)
  | space h ih => exact ih hkept

/-- However the encoding of a key is typed, it is read as the key. -/
theorem decodeSecret_of_retyped {bytes : List UInt8} (hne : bytes ≠ []) {text : String}
    (h : Retyped bytes text) : decodeSecret text = .ok bytes := by
  obtain ⟨kept, count, hencode, htyped⟩ := h
  have hspelling := spelling_of_encode hne hencode
  have hcleaned : cleaned text = kept :=
    upperChars_filter_of_typed htyped hspelling.mem_alphabet_or_eq
  obtain ⟨values, hvalues, hbytes⟩ := octets_digitsOf bytes
  refine decodeSecret_eq_ok.2 ⟨digitsOf bytes, values, ?_, hvalues, hbytes.symm⟩
  rwa [hcleaned]

/-- A key of six bytes, in small letters, in groups of four and with half of its filling. -/
theorem decodeSecret_grouped :
    Retyped [0x66, 0x6f, 0x6f, 0x62, 0x00, 0xff] "mzxw 6yqa 74==" ∧
      decodeSecret "mzxw 6yqa 74==" = .ok [0x66, 0x6f, 0x6f, 0x62, 0x00, 0xff] := by
  have h : Retyped [0x66, 0x6f, 0x6f, 0x62, 0x00, 0xff] "mzxw 6yqa 74==" := by
    refine ⟨"MZXW6YQA74==".toList, 4, by decide, ?_⟩
    exact .small <| .small <| .small <| .small <| .space <| .same <| .small <| .small <| .small <|
      .space <| .same <| .same <| .same <| .same .nil
  exact ⟨h, decodeSecret_of_retyped (by decide) h⟩

end TwoFactorLogin.Base32
