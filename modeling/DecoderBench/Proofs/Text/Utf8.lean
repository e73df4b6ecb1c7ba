/-
UTF-8 is read as it is written: bytes are read as a text exactly if they are that text's
encoding (`decode_eq_ok_iff`).

Reading a character takes a first byte and the bytes that it announces (`Follows`);
`encodeChar_of_follows` and `follows_encodeChar` say that these are the bytes that the
character is written with.
-/
import DecoderBench.Text.Utf8
import Mathlib.Data.List.Basic

namespace DecoderBench.Utf8

/-! ## Characters -/

/-- The bytes behind a first byte with the payload `bits`: there are `n` of them, the next
one within bounds, and together they denote `value`. -/
inductive Follows : (bits n : Nat) → (least most : UInt8) → List UInt8 → (value : Nat) → Prop
  | nil {bits : Nat} {least most : UInt8} : Follows bits 0 least most [] bits
  | cons {bits n value : Nat} {least most b : UInt8} {bs : List UInt8} : least ≤ b → b ≤ most →
      Follows (bits * 64 + (b.toNat - 0x80)) n 0x80 0xBF bs value → Follows bits (n + 1) least most (b :: bs) value

theorem Follows.follow_eq {bits n value : Nat} {least most : UInt8} {bs : List UInt8}
    (h : Follows bits n least most bs value) (taken : Nat) (rest : List UInt8) :
    follow bits n taken least most (bs ++ rest) = (.char (Char.ofNat value), rest) := by
  induction h generalizing taken with
  | nil => simp [follow]
  | cons hleast hmost _ ih => rw [List.cons_append, follow, if_pos (by simp [hleast, hmost]), ih]

theorem exists_follows {bits n taken : Nat} {least most : UInt8} {bytes rest : List UInt8} {c : Char}
    (h : follow bits n taken least most bytes = (.char c, rest)) :
    ∃ bs value, Follows bits n least most bs value ∧ bytes = bs ++ rest ∧ c = Char.ofNat value := by
  induction bytes generalizing bits n taken least most with
  | nil =>
    cases n with
    | zero =>
      simp only [follow, Prod.mk.injEq, Item.char.injEq] at h
      obtain ⟨rfl, rfl⟩ := h
      exact ⟨[], bits, .nil, rfl, rfl⟩
    | succ n => simp [follow] at h
  | cons b bytes ih =>
    cases n with
    | zero =>
      simp only [follow, Prod.mk.injEq, Item.char.injEq] at h
      obtain ⟨rfl, rfl⟩ := h
      exact ⟨[], bits, .nil, rfl, rfl⟩
    | succ n =>
      rw [follow] at h
      split at h
      · rename_i hbounds
        simp only [Bool.and_eq_true, decide_eq_true_eq] at hbounds
        obtain ⟨bs, value, hbs, rfl, hc⟩ := ih h
        exact ⟨b :: bs, value, .cons hbounds.1 hbounds.2 hbs, rfl, hc⟩
      · simp at h

theorem follows_zero_iff {bits value : Nat} {least most : UInt8} {bs : List UInt8} :
    Follows bits 0 least most bs value ↔ bs = [] ∧ value = bits := by
  constructor
  · rintro ⟨⟩
    exact ⟨rfl, rfl⟩
  · rintro ⟨rfl, rfl⟩
    exact .nil

theorem follows_succ_iff {bits n value : Nat} {least most : UInt8} {bs : List UInt8} :
    Follows bits (n + 1) least most bs value ↔
      ∃ b r, bs = b :: r ∧ (least ≤ b ∧ b ≤ most) ∧
        Follows (bits * 64 + (b.toNat - 0x80)) n 0x80 0xBF r value := by
  constructor
  · rintro (_ | ⟨hleast, hmost, h⟩)
    exact ⟨_, _, rfl, ⟨hleast, hmost⟩, h⟩
  · rintro ⟨b, r, rfl, ⟨hleast, hmost⟩, h⟩
    exact .cons hleast hmost h

/-! ## First bytes -/

section

variable {b : UInt8}

theorem lead?_one (h : b.toNat < 0x80) : lead? b = some ⟨b.toNat, 0, 0x80, 0xBF⟩ := by
  simp only [lead?]
  rw [if_pos h]

theorem lead?_two (h : 0xC2 ≤ b.toNat) (h' : b.toNat < 0xE0) :
    lead? b = some ⟨b.toNat - 0xC0, 1, 0x80, 0xBF⟩ := by
  simp only [lead?]
  rw [if_neg (by omega), if_neg (by omega), if_pos h']

theorem lead?_three (h : 0xE0 ≤ b.toNat) (h' : b.toNat < 0xF0) :
    lead? b = some ⟨b.toNat - 0xE0, 2, if b.toNat == 0xE0 then 0xA0 else 0x80,
      if b.toNat == 0xED then 0x9F else 0xBF⟩ := by
  simp only [lead?]
  rw [if_neg (by omega), if_neg (by omega), if_neg (by omega), if_pos h']

theorem lead?_four (h : 0xF0 ≤ b.toNat) (h' : b.toNat < 0xF5) :
    lead? b = some ⟨b.toNat - 0xF0, 3, if b.toNat == 0xF0 then 0x90 else 0x80,
      if b.toNat == 0xF4 then 0x8F else 0xBF⟩ := by
  simp only [lead?]
  rw [if_neg (by omega), if_neg (by omega), if_neg (by omega), if_neg (by omega), if_pos h']

theorem range_of_lead? {l : Lead} (h : lead? b = some l) :
    b.toNat < 0x80 ∨ (0xC2 ≤ b.toNat ∧ b.toNat < 0xE0) ∨ (0xE0 ≤ b.toNat ∧ b.toNat < 0xF0) ∨
      (0xF0 ≤ b.toNat ∧ b.toNat < 0xF5) := by
  by_contra hrange
  simp only [lead?] at h
  rw [if_neg (by omega)] at h
  split at h
  · cases h
  · rw [if_neg (by omega), if_neg (by omega), if_neg (by omega)] at h
    cases h

theorem isTail_iff : 0x80 ≤ b ∧ b ≤ 0xBF ↔ 0x80 ≤ b.toNat ∧ b.toNat ≤ 0xBF := by
  rw [UInt8.le_iff_toNat_le, UInt8.le_iff_toNat_le]
  rfl

/-- The bounds of a second byte, in numbers. -/
theorem bounds_iff {n low high : Nat} {least most : UInt8} (hleast : 0x80 ≤ least) (hmost : most ≤ 0xBF) :
    (if n == low then least else 0x80) ≤ b ∧ b ≤ (if n == high then most else 0xBF) ↔
      (0x80 ≤ b.toNat ∧ b.toNat ≤ 0xBF) ∧
        (n = low → least.toNat ≤ b.toNat) ∧ (n = high → b.toNat ≤ most.toNat) := by
  rw [UInt8.le_iff_toNat_le] at hleast hmost
  simp only [UInt8.le_iff_toNat_le, beq_iff_eq]
  have h80 : (0x80 : UInt8).toNat = 0x80 := rfl
  have hBF : (0xBF : UInt8).toNat = 0xBF := rfl
  split <;> split <;> omega

end

/-- The next byte where its bounds are not narrowed, in numbers. -/
theorem follows_tail_iff {bits n value : Nat} {bs : List UInt8} :
    Follows bits (n + 1) 0x80 0xBF bs value ↔
      ∃ b r, bs = b :: r ∧ (0x80 ≤ b.toNat ∧ b.toNat ≤ 0xBF) ∧
        Follows (bits * 64 + (b.toNat - 0x80)) n 0x80 0xBF r value := by
  simp only [follows_succ_iff, isTail_iff]

/-! ## The bytes of a character -/

/-- The bytes that a character is written with, by its number. -/
theorem encodeChar_ofNat {n : Nat} (h : n.isValidChar) :
    String.utf8EncodeChar (Char.ofNat n) =
      if n ≤ 0x7F then [.ofNat n]
      else if n ≤ 0x7FF then [.ofNat (n / 64 % 32 + 0xC0), .ofNat (n % 64 + 0x80)]
      else if n ≤ 0xFFFF then
        [.ofNat (n / 4096 % 16 + 0xE0), .ofNat (n / 64 % 64 + 0x80), .ofNat (n % 64 + 0x80)]
      else
        [.ofNat (n / 262144 % 8 + 0xF0), .ofNat (n / 4096 % 64 + 0x80), .ofNat (n / 64 % 64 + 0x80),
          .ofNat (n % 64 + 0x80)] := by
  have hn : (Char.ofNat n).val.toNat = n := by
    rw [Char.ofNat, dif_pos h]
    rfl
  rw [String.utf8EncodeChar, hn]

theorem ofNat_eq {n : Nat} {b : UInt8} (h : n = b.toNat) : UInt8.ofNat n = b := by rw [h, UInt8.ofNat_toNat]

theorem toNat_byte {n : Nat} (h : n < 0x100) : (UInt8.ofNat n).toNat = n := UInt8.toNat_ofNat_of_lt' h

/-- Bytes that are read as a character are those that it is written with. -/
theorem encodeChar_of_follows {b : UInt8} {l : Lead} {bs : List UInt8} {value : Nat} (hlead : lead? b = some l)
    (h : Follows l.bits l.following l.least l.most bs value) :
    String.utf8EncodeChar (Char.ofNat value) = b :: bs := by
  rcases range_of_lead? hlead with hb | ⟨hb, hb'⟩ | ⟨hb, hb'⟩ | ⟨hb, hb'⟩
  · obtain rfl := Option.some.inj ((lead?_one hb).symm.trans hlead)
    obtain ⟨rfl, hvalue⟩ := follows_zero_iff.1 h
    dsimp only at hvalue
    rw [encodeChar_ofNat (by omega), if_pos (by omega), ofNat_eq hvalue]
  · obtain rfl := Option.some.inj ((lead?_two hb hb').symm.trans hlead)
    obtain ⟨x, r, rfl, hx, h⟩ := follows_tail_iff.1 h
    obtain ⟨rfl, hvalue⟩ := follows_zero_iff.1 h
    dsimp only at hvalue
    rw [encodeChar_ofNat (by omega), if_neg (by omega), if_pos (by omega), ofNat_eq (b := b) (by omega),
      ofNat_eq (b := x) (by omega)]
  · obtain rfl := Option.some.inj ((lead?_three hb hb').symm.trans hlead)
    obtain ⟨x, r, rfl, hx, h⟩ := follows_succ_iff.1 h
    obtain ⟨y, r, rfl, hy, h⟩ := follows_tail_iff.1 h
    obtain ⟨rfl, hvalue⟩ := follows_zero_iff.1 h
    obtain ⟨hx, hlow, hhigh⟩ := (bounds_iff (by decide) (by decide)).1 hx
    change b.toNat = 0xE0 → 0xA0 ≤ x.toNat at hlow
    change b.toNat = 0xED → x.toNat ≤ 0x9F at hhigh
    dsimp only at hvalue
    rw [encodeChar_ofNat (by omega), if_neg (by omega), if_neg (by omega), if_pos (by omega),
      ofNat_eq (b := b) (by omega), ofNat_eq (b := x) (by omega), ofNat_eq (b := y) (by omega)]
  · obtain rfl := Option.some.inj ((lead?_four hb hb').symm.trans hlead)
    obtain ⟨x, r, rfl, hx, h⟩ := follows_succ_iff.1 h
    obtain ⟨y, r, rfl, hy, h⟩ := follows_tail_iff.1 h
    obtain ⟨z, r, rfl, hz, h⟩ := follows_tail_iff.1 h
    obtain ⟨rfl, hvalue⟩ := follows_zero_iff.1 h
    obtain ⟨hx, hlow, hhigh⟩ := (bounds_iff (by decide) (by decide)).1 hx
    change b.toNat = 0xF0 → 0x90 ≤ x.toNat at hlow
    change b.toNat = 0xF4 → x.toNat ≤ 0x8F at hhigh
    dsimp only at hvalue
    rw [encodeChar_ofNat (by omega), if_neg (by omega), if_neg (by omega), if_neg (by omega),
      ofNat_eq (b := b) (by omega), ofNat_eq (b := x) (by omega), ofNat_eq (b := y) (by omega),
      ofNat_eq (b := z) (by omega)]

/-- The bytes that a character is written with are read as that character. -/
theorem follows_encodeChar (c : Char) :
    ∃ b l bs, lead? b = some l ∧ Follows l.bits l.following l.least l.most bs c.toNat ∧
      String.utf8EncodeChar c = b :: bs := by
  have hvalid : c.toNat.isValidChar := c.valid
  generalize hn : c.toNat = n at hvalid
  have hc : String.utf8EncodeChar c = String.utf8EncodeChar (Char.ofNat n) := by rw [← hn, Char.ofNat_toNat]
  rw [hc, encodeChar_ofNat hvalid]
  -- One byte holds 7 bits, two hold 11, and three hold 16.
  by_cases h7 : n ≤ 0x7F
  · have hb := toNat_byte (n := n) (by omega)
    rw [if_pos h7]
    exact ⟨_, _, [], lead?_one (by omega), follows_zero_iff.2 ⟨rfl, hb.symm⟩, rfl⟩
  by_cases h11 : n ≤ 0x7FF
  · have hb := toNat_byte (n := n / 64 % 32 + 0xC0) (by omega)
    have hx := toNat_byte (n := n % 64 + 0x80) (by omega)
    rw [if_neg h7, if_pos h11]
    refine ⟨_, _, [_], lead?_two (by omega) (by omega), follows_tail_iff.2 ⟨_, _, rfl, by omega,
      follows_zero_iff.2 ⟨rfl, ?_⟩⟩, rfl⟩
    dsimp only
    omega
  by_cases h16 : n ≤ 0xFFFF
  · have hb := toNat_byte (n := n / 4096 % 16 + 0xE0) (by omega)
    have hx := toNat_byte (n := n / 64 % 64 + 0x80) (by omega)
    have hy := toNat_byte (n := n % 64 + 0x80) (by omega)
    rw [if_neg h7, if_neg h11, if_pos h16]
    refine ⟨_, _, [_, _], lead?_three (by omega) (by omega), follows_succ_iff.2 ⟨_, _, rfl,
      (bounds_iff (by decide) (by decide)).2 ⟨by omega, ?_, ?_⟩,
      follows_tail_iff.2 ⟨_, _, rfl, by omega, follows_zero_iff.2 ⟨rfl, ?_⟩⟩⟩, rfl⟩
    · change _ → 0xA0 ≤ _
      omega
    · change _ → _ ≤ 0x9F
      omega
    · dsimp only
      omega
  · have hb := toNat_byte (n := n / 262144 % 8 + 0xF0) (by omega)
    have hx := toNat_byte (n := n / 4096 % 64 + 0x80) (by omega)
    have hy := toNat_byte (n := n / 64 % 64 + 0x80) (by omega)
    have hz := toNat_byte (n := n % 64 + 0x80) (by omega)
    rw [if_neg h7, if_neg h11, if_neg h16]
    refine ⟨_, _, [_, _, _], lead?_four (by omega) (by omega), follows_succ_iff.2 ⟨_, _, rfl,
      (bounds_iff (by decide) (by decide)).2 ⟨by omega, ?_, ?_⟩,
      follows_tail_iff.2 ⟨_, _, rfl, by omega, follows_tail_iff.2 ⟨_, _, rfl, by omega,
        follows_zero_iff.2 ⟨rfl, ?_⟩⟩⟩⟩, rfl⟩
    · change _ → 0x90 ≤ _
      omega
    · change _ → _ ≤ 0x8F
      omega
    · dsimp only
      omega

theorem next_encodeChar (c : Char) : ∃ b bs, String.utf8EncodeChar c = b :: bs ∧
    ∀ rest, next b (bs ++ rest) = (.char c, rest) := by
  obtain ⟨b, l, bs, hlead, hbs, hc⟩ := follows_encodeChar c
  refine ⟨b, bs, hc, fun rest => ?_⟩
  rw [next, hlead]
  exact (hbs.follow_eq 1 rest).trans (by rw [Char.ofNat_toNat])

theorem eq_encodeChar_of_next {b : UInt8} {bytes rest : List UInt8} {c : Char} (h : next b bytes = (.char c, rest)) :
    b :: bytes = String.utf8EncodeChar c ++ rest := by
  unfold next at h
  split at h
  · simp at h
  · rename_i l hlead
    obtain ⟨bs, value, hbs, rfl, rfl⟩ := exists_follows h
    rw [encodeChar_of_follows hlead hbs, List.cons_append]

/-! ## Texts -/

theorem toList_loop (bytes : ByteArray) (i : Nat) (r : List UInt8) :
    ByteArray.toList.loop bytes i r = r.reverse ++ bytes.data.toList.drop i := by
  fun_induction ByteArray.toList.loop bytes i r with
  | case1 i r h ih =>
    have hi : i < bytes.data.toList.length := by simpa using h
    rw [ih, List.drop_eq_getElem_cons hi]
    simp [ByteArray.get!, h]
  | case2 i r h =>
    rw [List.drop_eq_nil_of_le (by simpa using Nat.le_of_not_lt h), List.append_nil]

theorem toList_toByteArray (bytes : List UInt8) : bytes.toByteArray.toList = bytes := by
  rw [ByteArray.toList, toList_loop, List.toList_data_toByteArray]
  rfl

theorem encode_eq_flatMap (s : String) : encode s = s.toList.flatMap String.utf8EncodeChar := by
  conv => lhs; rw [← String.ofList_toList (s := s)]
  rw [encode, String.toUTF8_eq_toByteArray, String.toByteArray_ofList]
  exact toList_toByteArray _

/-- The items of an encoded text are its characters. -/
theorem encode_eq_nil_iff {s : String} : encode s = [] ↔ s = "" := by
  rw [encode_eq_flatMap, List.flatMap_eq_nil_iff, ← String.toList_inj]
  constructor
  · intro h
    refine List.eq_nil_iff_forall_not_mem.2 fun c hc => ?_
    obtain ⟨b, bs, hchar, -⟩ := next_encodeChar c
    simpa [hchar] using h c hc
  · rintro h c hc
    rw [h] at hc
    cases hc

theorem items_flatMap (cs : List Char) : items (cs.flatMap String.utf8EncodeChar) = cs.map .char := by
  induction cs with
  | nil => rw [List.flatMap_nil, items]; rfl
  | cons c cs ih =>
    obtain ⟨b, bs, hc, hnext⟩ := next_encodeChar c
    rw [List.flatMap_cons, hc, List.cons_append, items, hnext, ih, List.map_cons]

theorem eq_flatMap_of_items {bytes : List UInt8} {cs : List Char} (h : items bytes = cs.map .char) :
    bytes = cs.flatMap String.utf8EncodeChar := by
  fun_induction items bytes generalizing cs with
  | case1 =>
    obtain rfl : cs = [] := by simpa using h.symm
    rfl
  | case2 b rest ih =>
    cases cs with
    | nil => simp at h
    | cons c cs =>
      simp only [List.map_cons, List.cons.injEq] at h
      rw [List.flatMap_cons, ← ih h.2]
      exact eq_encodeChar_of_next (Prod.ext h.1 rfl)

theorem map_eq_ok_iff {ε α β : Type} {x : Except ε α} {f : α → β} {b : β} :
    x.map f = .ok b ↔ ∃ a, x = .ok a ∧ f a = b := by
  cases x <;> simp [Except.map]

theorem gather_eq_ok_iff {position : Nat} {is : List Item} {cs : List Char} :
    gather position is = .ok cs ↔ is = cs.map .char := by
  induction is generalizing position cs with
  | nil => cases cs <;> simp [gather]
  | cons i is ih =>
    cases i with
    | fault length atEnd => cases cs <;> simp [gather]
    | char c =>
      rw [gather, map_eq_ok_iff]
      simp only [ih]
      cases cs <;> simp [and_comm]

/-- **Bytes are a text exactly if they are its encoding.** -/
theorem decode_eq_ok_iff {bytes : List UInt8} {s : String} : decode bytes = .ok s ↔ bytes = encode s := by
  rw [decode, map_eq_ok_iff, encode_eq_flatMap]
  constructor
  · rintro ⟨cs, hcs, rfl⟩
    rw [String.toList_ofList]
    exact eq_flatMap_of_items (gather_eq_ok_iff.1 hcs)
  · rintro rfl
    exact ⟨s.toList, gather_eq_ok_iff.2 (items_flatMap s.toList), String.ofList_toList⟩

end DecoderBench.Utf8
