import Mathlib.Data.List.TakeWhile
import Mathlib.Tactic.SplitIfs
import BoundSql.Text.Percent

/-!
# Escaped text

The parts of a database address are written with percent escapes.  An escape stands for a byte, and
a character has one to four of them, so that reading goes through two layers: the escapes give
bytes, and the bytes give characters.  Both layers are lenient.  An escape without digits stands for
itself, and bytes that are no character are replaced.  What is shown here is that none of this
leniency is ever used on a text that has been escaped before.

The layers are shown one after the other.  `Text.readChar_utf8EncodeChar` says that the bytes of a
character are read as that character whatever follows them, by cases over their number; this is
where surrogates and forms that are longer than necessary are excluded.  On the escapes the
induction is over the text.  It needs the signs that may stand unescaped to be in ASCII, so that all
of the escaped text is read in one stretch, and not to contain the percent sign.

* `Text.readUtf8_utf8Bytes` : what is written as bytes is read back.
* `Text.percentDecode_percentEncode` : what is escaped is read back.
* `Text.formDecode_formEncode` : so is what is written in a query.
-/

namespace BoundSql.Text

/-! ### Bytes -/

theorem toNat_ofNat_byte {n : Nat} (byte : n < 256) : (UInt8.ofNat n).toNat = n :=
  UInt8.toNat_ofNat'.trans (Nat.mod_eq_of_lt byte)

/-- A follower within the bounds adds its six bits. -/
theorem readFollowers_cons {count low high code d : Nat} (small : d < 64)
    (bounds : low ≤ d + 128 ∧ d + 128 ≤ high) (rest : List UInt8) :
    readFollowers (count + 1) low high code (UInt8.ofNat (d + 128) :: rest) =
      ((readFollowers count 0x80 0xBF (64 * code + d) rest).1,
        (readFollowers count 0x80 0xBF (64 * code + d) rest).2 + 1) := by
  have byte : (UInt8.ofNat (d + 128)).toNat = d + 128 := toNat_ofNat_byte (by omega)
  rw [readFollowers, byte, if_pos bounds, Nat.add_sub_cancel]

/-- The leads of the characters of two bytes, three and four.  The bounds of the first follower are
closer behind the least lead and behind that of the surrogates or the last lead. -/
theorem leadOf?_two {k : Nat} (least : 2 ≤ k) (most : k < 32) :
    leadOf? (k + 192) = some (1, 0x80, 0xBF, k) := by
  rw [leadOf?, if_pos (by omega), Nat.add_sub_cancel]

theorem leadOf?_three : ∀ k < 16, leadOf? (k + 224) =
    some (2, if k = 0 then 0xA0 else 0x80, if k = 13 then 0x9F else 0xBF, k) := by decide

theorem leadOf?_four : ∀ k < 5, leadOf? (k + 240) =
    some (3, if k = 0 then 0x90 else 0x80, if k = 4 then 0x8F else 0xBF, k) := by decide

/-- The lead of a character, which is none in ASCII, and the followers that it asks for. -/
theorem readChar_of_lead {n count low high code : Nat} (byte : n < 256) (wide : ¬ n < 128)
    (lead : leadOf? n = some (count, low, high, code)) (rest : List UInt8) :
    readChar (UInt8.ofNat n) rest = readFollowers count low high code rest := by
  rw [readChar, toNat_ofNat_byte byte, if_neg wide, lead]

/-- **The bytes of a character are read as that character**, whatever follows them. -/
theorem readChar_utf8EncodeChar (c : Char) (rest : List UInt8) :
    ∃ b bs, String.utf8EncodeChar c = b :: bs ∧ readChar b (bs ++ rest) = (c, bs.length) := by
  have valid : c.toNat < 55296 ∨ 57343 < c.toNat ∧ c.toNat < 1114112 := c.valid
  have same : Char.ofNat c.toNat = c := Char.ofNat_toNat c
  unfold String.utf8EncodeChar
  rw [show c.val.toNat = c.toNat from rfl]
  -- From here on only the number of the character counts: it says how many bytes there are, and the
  -- first byte read gives that number of bytes back.
  generalize c.toNat = n at valid same
  subst same
  have tail (m : Nat) : m % 64 < 64 := Nat.mod_lt m (by omega)
  simp only
  split
  case isTrue ascii =>
    refine ⟨_, _, rfl, ?_⟩
    rw [readChar, toNat_ofNat_byte (by omega), if_pos (by omega)]
    rfl
  split
  case isTrue two =>
    have lead := leadOf?_two (show 2 ≤ n / 64 % 32 by omega) (by omega)
    refine ⟨_, _, rfl, ?_⟩
    rw [readChar_of_lead (by omega) (by omega) lead, List.singleton_append,
      readFollowers_cons (tail n) (by omega), readFollowers]
    have code : 64 * (n / 64 % 32) + n % 64 = n := by omega
    rw [code]
    rfl
  split
  case isTrue three =>
    have lead := leadOf?_three (n / 4096 % 16) (by omega)
    -- neither one of the numbers that two bytes are enough for nor one that stands for half a pair
    have bounds : (if n / 4096 % 16 = 0 then 0xA0 else 0x80) ≤ n / 64 % 64 + 128 ∧
        n / 64 % 64 + 128 ≤ if n / 4096 % 16 = 13 then 0x9F else 0xBF := by
      split_ifs <;> omega
    refine ⟨_, _, rfl, ?_⟩
    rw [readChar_of_lead (by omega) (by omega) lead, List.cons_append, List.singleton_append,
      readFollowers_cons (tail _) bounds, readFollowers_cons (tail _) (by omega), readFollowers]
    have code : 64 * (64 * (n / 4096 % 16) + n / 64 % 64) + n % 64 = n := by omega
    rw [code]
    rfl
  case isFalse four =>
    have lead := leadOf?_four (n / 262144 % 8) (by omega)
    have bounds : (if n / 262144 % 8 = 0 then 0x90 else 0x80) ≤ n / 4096 % 64 + 128 ∧
        n / 4096 % 64 + 128 ≤ if n / 262144 % 8 = 4 then 0x8F else 0xBF := by
      split_ifs <;> omega
    refine ⟨_, _, rfl, ?_⟩
    rw [readChar_of_lead (by omega) (by omega) lead, List.cons_append, List.cons_append,
      List.singleton_append,
      readFollowers_cons (tail _) bounds, readFollowers_cons (tail _) (by omega),
      readFollowers_cons (tail _) (by omega), readFollowers]
    have code : 64 * (64 * (64 * (n / 262144 % 8) + n / 4096 % 64) + n / 64 % 64) + n % 64 = n := by
      omega
    rw [code]
    rfl

theorem readUtf8_utf8EncodeChar_append (c : Char) (rest : List UInt8) :
    readUtf8 (String.utf8EncodeChar c ++ rest) = c :: readUtf8 rest := by
  obtain ⟨b, bs, bytes, read⟩ := readChar_utf8EncodeChar c rest
  rw [bytes, List.cons_append, readUtf8]
  simp only [read, List.drop_left]

/-- **What is written as bytes is read back.** -/
theorem readUtf8_utf8Bytes (s : List Char) : readUtf8 (utf8Bytes s) = s := by
  induction s with
  | nil => rw [utf8Bytes, List.flatMap_nil, readUtf8]
  | cons c s ih =>
      rw [utf8Bytes, List.flatMap_cons, readUtf8_utf8EncodeChar_append]
      exact congrArg (c :: ·) ih

/-! ### Escapes -/

/-- A byte is spelled by its two digits, which may stand as they are. -/
theorem hexByte?_hexDigits (b : UInt8) : ∃ high low, hexDigits b = [high, low] ∧
    hexByte? high low = some b ∧ isUnreserved high = true ∧ isUnreserved low = true := by
  have digit : ∀ n < 16, hexValue? (Nat.digitChar n).toUpper = some n ∧
      isUnreserved (Nat.digitChar n).toUpper = true := by decide
  obtain ⟨high, unreserved⟩ := digit (b.toNat / 16) (by have := b.toNat_lt; omega)
  obtain ⟨low, unreserved'⟩ := digit (b.toNat % 16) (by omega)
  refine ⟨_, _, rfl, ?_, unreserved, unreserved'⟩
  have whole : 16 * (b.toNat / 16) + b.toNat % 16 = b.toNat := Nat.div_add_mod _ _
  simp only [hexByte?, high, low, Option.pure_def, Option.bind_eq_bind, Option.bind_some, whole]
  exact congrArg some (UInt8.ofNat_toNat)

theorem percentBytes_escape (b : UInt8) (rest : List Char) :
    percentBytes (('%' :: hexDigits b) ++ rest) = b :: percentBytes rest := by
  obtain ⟨high, low, digits, spelled, -⟩ := hexByte?_hexDigits b
  rw [digits]
  show percentBytes ('%' :: high :: low :: rest) = _
  rw [percentBytes, spelled]

theorem percentBytes_escapes (bytes : List UInt8) (rest : List Char) :
    percentBytes (bytes.flatMap (fun b => '%' :: hexDigits b) ++ rest) =
      bytes ++ percentBytes rest := by
  induction bytes with
  | nil => rfl
  | cons b bytes ih =>
      rw [List.flatMap_cons, List.append_assoc, percentBytes_escape, ih]
      rfl

/-- A character that may stand as it is is its own byte. -/
theorem percentBytes_cons {c : Char} (ascii : isAscii c = true) (other : c ≠ '%')
    (rest : List Char) :
    percentBytes (c :: rest) = String.utf8EncodeChar c ++ percentBytes rest := by
  have small : c.toNat ≤ 127 := Nat.le_of_lt_succ (of_decide_eq_true ascii)
  have byte : String.utf8EncodeChar c = [UInt8.ofNat c.toNat] := if_pos small
  rw [byte, percentBytes]
  · rfl
  · intro high low more same
    exact absurd same other

variable {safe : List Char}

/-- What may stand as it is is in ASCII. -/
theorem isAscii_of_open (plain : ∀ c ∈ safe, isAscii c = true) {c : Char}
    (shown : (isUnreserved c || safe.contains c) = true) : isAscii c = true := by
  rcases Bool.or_eq_true _ _ |>.mp shown with unreserved | free
  · exact (Bool.and_eq_true _ _ |>.mp unreserved).1
  · exact plain c (List.contains_iff_mem.mp free)

/-- An escaped text consists of what may stand as it is and of escapes. -/
theorem mem_percentEncode {s : List Char} {d : Char} (mem : d ∈ percentEncode safe s) :
    d = '%' ∨ (isUnreserved d || safe.contains d) = true := by
  obtain ⟨c, -, mem⟩ := List.mem_flatMap.mp mem
  split at mem
  case isTrue shown =>
    obtain rfl := List.mem_singleton.mp mem
    exact .inr shown
  case isFalse =>
    obtain ⟨b, -, mem⟩ := List.mem_flatMap.mp mem
    obtain ⟨high, low, digits, -, unreserved, unreserved'⟩ := hexByte?_hexDigits b
    rw [digits] at mem
    simp only [List.mem_cons, List.not_mem_nil, or_false] at mem
    rcases mem with rfl | rfl | rfl
    · exact .inl rfl
    · exact .inr (by rw [unreserved, Bool.true_or])
    · exact .inr (by rw [unreserved', Bool.true_or])

/-- An escaped text is in ASCII. -/
theorem isAscii_of_mem_percentEncode (plain : ∀ c ∈ safe, isAscii c = true) {s : List Char}
    {d : Char} (mem : d ∈ percentEncode safe s) : isAscii d = true := by
  rcases mem_percentEncode mem with rfl | shown
  · rfl
  · exact isAscii_of_open plain shown

theorem percentBytes_percentEncode (plain : ∀ c ∈ safe, isAscii c = true) (marked : '%' ∉ safe)
    (s : List Char) : percentBytes (percentEncode safe s) = utf8Bytes s := by
  induction s with
  | nil => rfl
  | cons c s ih =>
      show percentBytes ((if _ then _ else _) ++ percentEncode safe s) =
        String.utf8EncodeChar c ++ _
      split
      case isTrue shown =>
        have other : c ≠ '%' := by
          rintro rfl
          rcases Bool.or_eq_true _ _ |>.mp shown with unreserved | free
          · cases unreserved
          · exact marked (List.contains_iff_mem.mp free)
        rw [List.singleton_append, percentBytes_cons (isAscii_of_open plain shown) other, ih]
        rfl
      case isFalse =>
        rw [percentBytes_escapes, ih]
        rfl

/-- A text in ASCII is read in one stretch. -/
theorem percentDecode_of_ascii {s : List Char} (ascii : ∀ c ∈ s, isAscii c = true) :
    percentDecode s = readUtf8 (percentBytes s) := by
  cases s with
  | nil => rw [percentDecode, percentBytes, readUtf8]
  | cons c s =>
      obtain ⟨first, others⟩ := List.forall_mem_cons.mp ascii
      rw [percentDecode, if_pos first, List.takeWhile_eq_self_iff.mpr others,
        List.dropWhile_eq_nil_iff.mpr others, percentDecode, List.append_nil]

/-- Where there is nothing to escape, nothing is read as an escape. -/
theorem percentDecode_of_notMem {s : List Char} (ascii : ∀ c ∈ s, isAscii c = true)
    (absent : '%' ∉ s) : percentDecode s = s := by
  suffices bytes : percentBytes s = utf8Bytes s by
    rw [percentDecode_of_ascii ascii, bytes, readUtf8_utf8Bytes]
  induction s with
  | nil => rfl
  | cons c s ih =>
      obtain ⟨first, others⟩ := List.forall_mem_cons.mp ascii
      rw [percentBytes_cons first (fun same => absent (same ▸ List.mem_cons_self)),
        ih others fun mem => absent (List.mem_cons_of_mem c mem)]
      rfl

/-- **What is escaped is read back**, whatever may stand as it is, as long as this is in ASCII and
is not the sign of an escape. -/
theorem percentDecode_percentEncode (plain : ∀ c ∈ safe, isAscii c = true) (marked : '%' ∉ safe)
    (s : List Char) : percentDecode (percentEncode safe s) = s := by
  rw [percentDecode_of_ascii fun c mem => isAscii_of_mem_percentEncode plain mem,
    percentBytes_percentEncode plain marked, readUtf8_utf8Bytes]

/-- **What is written in a query is read back.**  A space is written as a plus sign, which no
escaped text contains. -/
theorem formDecode_formEncode (s : List Char) : formDecode (formEncode s) = s := by
  have spaces : (formEncode s).map (fun c => if c == '+' then ' ' else c) =
      percentEncode [' '] s := by
    rw [formEncode, List.map_map]
    refine (List.map_congr_left fun c mem => ?_).trans (List.map_id _)
    have other : c ≠ '+' := by
      rintro rfl
      rcases mem_percentEncode mem with same | shown
      · exact absurd same (by decide)
      · exact absurd shown (by decide)
    by_cases space : c = ' '
    · rw [space]
      rfl
    · simp [space, other]
  rw [formDecode, spaces, percentDecode_percentEncode (List.all_eq_true.mp rfl) (by decide)]

end BoundSql.Text
