import Mathlib.Data.List.Basic
import SqlLayout.Text.Encoding

/-!
# Texts and their bytes

The bytes of a text are read as the text, and where bytes are no text, those before the fault are
one.

## Implementation notes

The first is told character by character, with its bytes as numbers.  The second is told byte by
byte, with the character that has begun as the state.

## Main results

- `decode_utf8Encode`: the bytes of a text are read as the text.
- `decode_error`: a fault has bytes, ends where they end, and a text stands before it.
-/

namespace SqlLayout.Text

/-! ## Steps -/

theorem toNat_ofNat_byte {n : Nat} (hn : n < 0x100) : (UInt8.ofNat n).toNat = n :=
  UInt8.toNat_ofNat_of_lt' hn

theorem not_ascii_ofNat {n : Nat} (hlow : 0x80 ≤ n) (hn : n < 0x100) :
    ¬ UInt8.ofNat n < 0x80 := by
  simp only [UInt8.lt_iff_toNat_lt, toNat_ofNat_byte hn, UInt8.reduceToNat]
  omega

/-- The comparisons with the first byte, as numbers. -/
theorem ofFirst?_eq (place : Nat) (byte : UInt8) :
    Begun.ofFirst? place byte =
      if byte.toNat < 0xC2 then none
      else if byte.toNat < 0xE0 then
        some { start := place, first := byte, code := byte.toNat % 0x20, further := 0 }
      else if byte.toNat < 0xF0 then
        some { start := place, first := byte, code := byte.toNat % 0x10, further := 1
               low := if byte.toNat = 0xE0 then 0xA0 else 0x80
               high := if byte.toNat = 0xED then 0x9F else 0xBF }
      else if byte.toNat < 0xF5 then
        some { start := place, first := byte, code := byte.toNat % 0x08, further := 2
               low := if byte.toNat = 0xF0 then 0x90 else 0x80
               high := if byte.toNat = 0xF4 then 0x8F else 0xBF }
      else none := by
  simp only [Begun.ofFirst?, UInt8.lt_iff_toNat_lt, ← UInt8.toNat_inj]
  rfl

section

variable {place start code further a b c d : Nat} {begun : Begun} {first byte : UInt8}
  {rest : List UInt8}

/-- A character with one byte. -/
theorem decodeFrom_ascii (hbyte : byte < 0x80) :
    decodeFrom place none (byte :: rest) =
      (Char.ofNat byte.toNat :: ·) <$> decodeFrom (place + 1) none rest := by
  rw [decodeFrom, if_pos hbyte]

/-- The first byte of a character with several. -/
theorem decodeFrom_first (hbyte : ¬ byte < 0x80)
    (hbegun : Begun.ofFirst? place byte = some begun) :
    decodeFrom place none (byte :: rest) = decodeFrom (place + 1) (some begun) rest := by
  rw [decodeFrom, if_neg hbyte, hbegun]

/-- A byte after which the character goes on. -/
theorem decodeFrom_within (hbyte : begun.low ≤ byte ∧ byte ≤ begun.high)
    (hfurther : begun.further = further + 1) :
    decodeFrom place (some begun) (byte :: rest) =
      decodeFrom (place + 1)
        (some { start := begun.start, first := begun.first, further
                code := begun.code * 0x40 + byte.toNat % 0x40 }) rest := by
  rw [decodeFrom, if_pos hbyte]
  simp only [hfurther]

/-- The last byte of a character. -/
theorem decodeFrom_end (hbyte : begun.low ≤ byte ∧ byte ≤ begun.high)
    (hfurther : begun.further = 0) :
    decodeFrom place (some begun) (byte :: rest) =
      (Char.ofNat (begun.code * 0x40 + byte.toNat % 0x40) :: ·) <$>
        decodeFrom (place + 1) none rest := by
  rw [decodeFrom, if_pos hbyte]
  simp only [hfurther]

theorem decodeFrom_start (hbyte : ¬ byte < 0x80) (hbegun : Begun.ofFirst? place byte = none) :
    decodeFrom place none (byte :: rest) =
      .error { first := byte, start := place, count := 1, reason := .start } := by
  rw [decodeFrom, if_neg hbyte, hbegun]

theorem decodeFrom_continuation (hbyte : ¬ (begun.low ≤ byte ∧ byte ≤ begun.high)) :
    decodeFrom place (some begun) (byte :: rest) =
      .error (begun.fault place .continuation) := by
  rw [decodeFrom, if_neg hbyte]

/-! ## The bytes of a character -/

/-- Behind the first one, the bytes of a character have a mark and six bits. -/
theorem six_bits (hb : b < 0x40) : (UInt8.ofNat (b + 128)).toNat % 0x40 = b := by
  rw [toNat_ofNat_byte (by omega)]
  omega

theorem decodeFrom_further {low high : UInt8} (hb : b < 0x40)
    (hbyte : low ≤ UInt8.ofNat (b + 128) ∧ UInt8.ofNat (b + 128) ≤ high) :
    decodeFrom place (some { start, first, code, further := further + 1, low, high })
        (UInt8.ofNat (b + 128) :: rest) =
      decodeFrom (place + 1) (some { start, first, code := code * 0x40 + b, further }) rest := by
  rw [decodeFrom_within hbyte rfl, six_bits hb]

theorem decodeFrom_last {low high : UInt8} (hb : b < 0x40)
    (hbyte : low ≤ UInt8.ofNat (b + 128) ∧ UInt8.ofNat (b + 128) ≤ high) :
    decodeFrom place (some { start, first, code, further := 0, low, high })
        (UInt8.ofNat (b + 128) :: rest) =
      (Char.ofNat (code * 0x40 + b) :: ·) <$> decodeFrom (place + 1) none rest := by
  rw [decodeFrom_end hbyte rfl, six_bits hb]

theorem continues (hb : b < 0x40) :
    (0x80 : UInt8) ≤ UInt8.ofNat (b + 128) ∧ UInt8.ofNat (b + 128) ≤ 0xBF := by
  have hbyte : (UInt8.ofNat (b + 128)).toNat = b + 128 := toNat_ofNat_byte (by omega)
  simp only [UInt8.le_iff_toNat_le, hbyte, UInt8.reduceToNat]
  omega

/-- The second byte, where the first one may leave fewer of them. -/
theorem continues_within {p q : Prop} [Decidable p] [Decidable q] {low high : UInt8}
    (hb : b < 0x40) (hlow : p → low.toNat ≤ b + 128) (hhigh : q → b + 128 ≤ high.toNat) :
    (if p then low else 0x80) ≤ UInt8.ofNat (b + 128) ∧
      UInt8.ofNat (b + 128) ≤ if q then high else 0xBF := by
  have hbyte : (UInt8.ofNat (b + 128)).toNat = b + 128 := toNat_ofNat_byte (by omega)
  obtain ⟨hleast, hmost⟩ := continues hb
  constructor
  · split
    next hp => exact UInt8.le_iff_toNat_le.2 (hbyte.symm ▸ hlow hp)
    next => exact hleast
  · split
    next hq => exact UInt8.le_iff_toNat_le.2 (hbyte.symm ▸ hhigh hq)
    next => exact hmost

theorem decodeFrom_one (place : Nat) (rest : List UInt8) (ha : a < 0x80) :
    decodeFrom place none (UInt8.ofNat a :: rest) =
      (Char.ofNat a :: ·) <$> decodeFrom (place + 1) none rest := by
  have hbyte : (UInt8.ofNat a).toNat = a := toNat_ofNat_byte (by omega)
  have hascii : UInt8.ofNat a < 0x80 := by
    simp only [UInt8.lt_iff_toNat_lt, hbyte, UInt8.reduceToNat]
    omega
  rw [decodeFrom_ascii hascii, hbyte]

theorem decodeFrom_two (place : Nat) (rest : List UInt8) (hlow : 2 ≤ a) (ha : a < 0x20)
    (hb : b < 0x40) :
    decodeFrom place none (UInt8.ofNat (a + 192) :: UInt8.ofNat (b + 128) :: rest) =
      (Char.ofNat (a * 0x40 + b) :: ·) <$> decodeFrom (place + 2) none rest := by
  have hbyte : (UInt8.ofNat (a + 192)).toNat = a + 192 := toNat_ofNat_byte (by omega)
  have hfirst : ¬ UInt8.ofNat (a + 192) < 0x80 := not_ascii_ofNat (by omega) (by omega)
  have hcode : (a + 192) % 0x20 = a := by omega
  have hbegun := ofFirst?_eq place (UInt8.ofNat (a + 192))
  rw [hbyte, hcode, if_neg (by omega), if_pos (by omega)] at hbegun
  rw [decodeFrom_first hfirst hbegun, decodeFrom_last hb (continues hb)]

theorem decodeFrom_three (place : Nat) (rest : List UInt8) (ha : a < 0x10) (hb : b < 0x40)
    (hc : c < 0x40) (hleast : a = 0 → 0x20 ≤ b) (hpair : a = 0x0D → b < 0x20) :
    decodeFrom place none
        (UInt8.ofNat (a + 224) :: UInt8.ofNat (b + 128) :: UInt8.ofNat (c + 128) :: rest) =
      (Char.ofNat ((a * 0x40 + b) * 0x40 + c) :: ·) <$> decodeFrom (place + 3) none rest := by
  have hbyte : (UInt8.ofNat (a + 224)).toNat = a + 224 := toNat_ofNat_byte (by omega)
  have hfirst : ¬ UInt8.ofNat (a + 224) < 0x80 := not_ascii_ofNat (by omega) (by omega)
  have hcode : (a + 224) % 0x10 = a := by omega
  have hbegun := ofFirst?_eq place (UInt8.ofNat (a + 224))
  rw [hbyte, hcode, if_neg (by omega), if_neg (by omega), if_pos (by omega)] at hbegun
  have hsecond : (if a + 224 = 0xE0 then (0xA0 : UInt8) else 0x80) ≤ UInt8.ofNat (b + 128) ∧
      UInt8.ofNat (b + 128) ≤ if a + 224 = 0xED then 0x9F else 0xBF :=
    continues_within hb (by simp only [UInt8.reduceToNat]; omega)
      (by simp only [UInt8.reduceToNat]; omega)
  rw [decodeFrom_first hfirst hbegun, decodeFrom_further hb hsecond,
    decodeFrom_last hc (continues hc)]

theorem decodeFrom_four (place : Nat) (rest : List UInt8) (ha : a < 5) (hb : b < 0x40)
    (hc : c < 0x40) (hd : d < 0x40) (hleast : a = 0 → 0x10 ≤ b) (hlast : a = 4 → b < 0x10) :
    decodeFrom place none
        (UInt8.ofNat (a + 240) :: UInt8.ofNat (b + 128) :: UInt8.ofNat (c + 128) ::
          UInt8.ofNat (d + 128) :: rest) =
      (Char.ofNat (((a * 0x40 + b) * 0x40 + c) * 0x40 + d) :: ·) <$>
        decodeFrom (place + 4) none rest := by
  have hbyte : (UInt8.ofNat (a + 240)).toNat = a + 240 := toNat_ofNat_byte (by omega)
  have hfirst : ¬ UInt8.ofNat (a + 240) < 0x80 := not_ascii_ofNat (by omega) (by omega)
  have hcode : (a + 240) % 0x08 = a := by omega
  have hbegun := ofFirst?_eq place (UInt8.ofNat (a + 240))
  rw [hbyte, hcode, if_neg (by omega), if_neg (by omega), if_neg (by omega), if_pos (by omega)]
    at hbegun
  have hsecond : (if a + 240 = 0xF0 then (0x90 : UInt8) else 0x80) ≤ UInt8.ofNat (b + 128) ∧
      UInt8.ofNat (b + 128) ≤ if a + 240 = 0xF4 then 0x8F else 0xBF :=
    continues_within hb (by simp only [UInt8.reduceToNat]; omega)
      (by simp only [UInt8.reduceToNat]; omega)
  rw [decodeFrom_first hfirst hbegun, decodeFrom_further hb hsecond,
    decodeFrom_further hc (continues hc), decodeFrom_last hd (continues hd)]

end

/-- Behind the bytes of a character, what comes next is read. -/
theorem decodeFrom_utf8EncodeChar (c : Char) (place : Nat) (rest : List UInt8) :
    decodeFrom place none (String.utf8EncodeChar c ++ rest) =
      (c :: ·) <$> decodeFrom (place + (String.utf8EncodeChar c).length) none rest := by
  have hvalid : c.toNat < 0xD800 ∨ 0xDFFF < c.toNat ∧ c.toNat < 0x110000 := c.valid
  have hc (code : Nat) (hcode : code = c.toNat) : Char.ofNat code = c :=
    hcode ▸ Char.ofNat_toNat c
  have hval : c.val.toNat = c.toNat := rfl
  rw [String.utf8EncodeChar]
  simp only [hval]
  generalize c.toNat = v at hvalid hc
  split
  next hone => exact hc v rfl ▸ decodeFrom_one place rest (by omega)
  split
  next hone htwo =>
    rw [← hc (v / 64 % 32 * 0x40 + v % 64) (by omega)]
    exact decodeFrom_two place rest (by omega) (by omega) (by omega)
  split
  next hone htwo hthree =>
    rw [← hc ((v / 4096 % 16 * 0x40 + v / 64 % 64) * 0x40 + v % 64) (by omega)]
    exact decodeFrom_three place rest (by omega) (by omega) (by omega) (by omega) (by omega)
  next hone htwo hthree =>
    rw [← hc (((v / 262144 % 8 * 0x40 + v / 4096 % 64) * 0x40 + v / 64 % 64) * 0x40 + v % 64)
      (by omega)]
    exact decodeFrom_four place rest (by omega) (by omega) (by omega) (by omega) (by omega)
      (by omega)

/-- The bytes of a text are read as the text. -/
theorem decode_utf8Encode (text : String) :
    decode (text.toList.flatMap String.utf8EncodeChar) = .ok text := by
  have hchars (chars : List Char) (place : Nat) :
      decodeFrom place none (chars.flatMap String.utf8EncodeChar) = .ok chars := by
    induction chars generalizing place with
    | nil => rfl
    | cons c rest ih =>
        rw [List.flatMap_cons, decodeFrom_utf8EncodeChar, ih]
        rfl
  rw [decode, hchars]
  exact congrArg Except.ok String.ofList_toList

/-! ## Faults -/

/-- What is told of a fault: it has bytes and ends where they end, and it begins with the character
that has begun, or the bytes before it are a text. -/
structure DecodeFault.Found (fault : DecodeFault) (place : Nat) (begun : Option Begun)
    (bytes : List UInt8) : Prop where
  pos : 0 < fault.count
  le : fault.start + fault.count ≤ place + bytes.length
  before : (∃ found ∈ begun, found.start = fault.start) ∨ place ≤ fault.start ∧
    ∃ chars, decodeFrom place begun (bytes.take (fault.start - place)) = .ok chars

theorem DecodeFault.Found.of_start {fault : DecodeFault} {place : Nat} {bytes : List UInt8}
    (hpos : 0 < fault.count) (hle : fault.start + fault.count ≤ place + bytes.length)
    (hstart : fault.start = place) : fault.Found place none bytes := by
  refine ⟨hpos, hle, .inr ⟨Nat.le_of_eq hstart.symm, [], ?_⟩⟩
  rw [hstart, Nat.sub_self, List.take_zero, decodeFrom]

/-- What is found behind a byte is found with it. -/
theorem DecodeFault.Found.cons {fault : DecodeFault} {place : Nat} {begun after : Option Begun}
    {byte : UInt8} {rest : List UInt8} (h : fault.Found (place + 1) after rest)
    (hstart : (∃ found ∈ after, found.start = fault.start) →
      fault.Found place begun (byte :: rest))
    (hread : ∀ front chars, decodeFrom (place + 1) after front = .ok chars →
      ∃ chars, decodeFrom place begun (byte :: front) = .ok chars) :
    fault.Found place begun (byte :: rest) := by
  obtain hfound | ⟨hplace, chars, hchars⟩ := h.before
  · exact hstart hfound
  · obtain ⟨more, hmore⟩ := hread _ _ hchars
    have htake : fault.start - place = fault.start - (place + 1) + 1 := by omega
    have hle := h.le
    refine ⟨h.pos, by rw [List.length_cons]; omega, .inr ⟨by omega, more, ?_⟩⟩
    rw [htake, List.take_succ_cons, hmore]

/-- The fault of a character that has begun. -/
theorem Begun.found_fault {begun : Begun} {place : Nat} (hbegun : begun.start < place)
    (bytes : List UInt8) (reason : DecodeReason) :
    (begun.fault place reason).Found place (some begun) bytes := by
  have hplace : begun.start + (place - begun.start) = place :=
    Nat.add_sub_cancel' (Nat.le_of_lt hbegun)
  refine ⟨Nat.sub_pos_of_lt hbegun, ?_, .inl ⟨begun, rfl, rfl⟩⟩
  exact Nat.le_trans (Nat.le_of_eq hplace) (Nat.le_add_right _ _)

theorem start_of_ofFirst? {place : Nat} {byte : UInt8} {begun : Begun}
    (h : Begun.ofFirst? place byte = some begun) : begun.start = place := by
  unfold Begun.ofFirst? at h
  split at h
  · cases h
  split at h
  · exact Option.some.inj h ▸ rfl
  split at h
  · exact Option.some.inj h ▸ rfl
  split at h
  · exact Option.some.inj h ▸ rfl
  · cases h

theorem error_of_map {ε α β : Type} {f : α → β} {action : Except ε α} {fault : ε}
    (h : f <$> action = .error fault) : action = .error fault := by
  cases action with
  | error found => exact congrArg Except.error (Except.error.inj h)
  | ok value => cases h

theorem exists_map_ok {ε α β : Type} {f : α → β} {action : Except ε α} {value : α}
    (h : action = .ok value) : ∃ found, f <$> action = .ok found :=
  ⟨f value, by rw [h]; rfl⟩

/-- The fault of bytes that are no text. -/
theorem found_of_error {place : Nat} {begun : Option Begun} {bytes : List UInt8}
    {fault : DecodeFault} (hbegun : ∀ found ∈ begun, found.start < place)
    (h : decodeFrom place begun bytes = .error fault) : fault.Found place begun bytes := by
  have hnone {p : Prop} : (∃ found ∈ (none : Option Begun), found.start = fault.start) → p :=
    fun ⟨_, hmem, _⟩ => nomatch hmem
  induction bytes generalizing place begun with
  | nil =>
      cases begun with
      | none => cases h
      | some begun =>
          obtain rfl := Except.error.inj h
          exact begun.found_fault (hbegun begun rfl) [] .unfinished
  | cons byte rest ih =>
      cases begun with
      | none =>
          by_cases hascii : byte < 0x80
          · rw [decodeFrom_ascii hascii] at h
            refine (ih (by simp) (error_of_map h)).cons hnone fun front chars hchars => ?_
            rw [decodeFrom_ascii hascii]
            exact exists_map_ok hchars
          cases hfirst : Begun.ofFirst? place byte with
          | none =>
              rw [decodeFrom_start hascii hfirst] at h
              obtain rfl := Except.error.inj h
              exact .of_start Nat.one_pos (by simp) rfl
          | some begun =>
              have hstart := start_of_ofFirst? hfirst
              rw [decodeFrom_first hascii hfirst] at h
              have hrest := ih (by simp [hstart]) h
              refine hrest.cons (fun ⟨found, hmem, hfound⟩ => ?_) fun front chars hchars =>
                ⟨chars, by rw [decodeFrom_first hascii hfirst, hchars]⟩
              obtain rfl := Option.some.inj hmem
              have hle := hrest.le
              exact .of_start hrest.pos (by rw [List.length_cons]; omega) (hfound.symm.trans hstart)
      | some begun =>
          have hlt := hbegun begun rfl
          by_cases hbyte : begun.low ≤ byte ∧ byte ≤ begun.high
          · cases hfurther : begun.further with
            | zero =>
                rw [decodeFrom_end hbyte hfurther] at h
                refine (ih (by simp) (error_of_map h)).cons hnone fun front chars hchars => ?_
                rw [decodeFrom_end hbyte hfurther]
                exact exists_map_ok hchars
            | succ further =>
                rw [decodeFrom_within hbyte hfurther] at h
                have hrest := ih (by simp; omega) h
                refine hrest.cons (fun ⟨found, hmem, hfound⟩ => ?_) fun front chars hchars =>
                  ⟨chars, by rw [decodeFrom_within hbyte hfurther, hchars]⟩
                obtain rfl := Option.some.inj hmem
                have hle := hrest.le
                exact ⟨hrest.pos, by rw [List.length_cons]; omega, .inl ⟨begun, rfl, hfound⟩⟩
          · rw [decodeFrom_continuation hbyte] at h
            obtain rfl := Except.error.inj h
            exact begun.found_fault hlt _ .continuation

/-- The bytes before the fault of bytes that are no text are a text. -/
theorem decode_error {bytes : List UInt8} {fault : DecodeFault}
    (h : decode bytes = .error fault) :
    0 < fault.count ∧ fault.start + fault.count ≤ bytes.length ∧
      ∃ text, decode (bytes.take fault.start) = .ok text := by
  have hfound : fault.Found 0 none bytes :=
    found_of_error (fun _ hmem => absurd hmem (Option.not_mem_none _)) (error_of_map h)
  refine ⟨hfound.pos, by simpa using hfound.le, ?_⟩
  obtain ⟨_, ⟨⟩, -⟩ | ⟨-, chars, hchars⟩ := hfound.before
  exact exists_map_ok hchars

end SqlLayout.Text
