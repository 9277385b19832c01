import Fossilize.Vulkan

/-! # The C text routines between the supervisor and its workers

`sprintf("%llx\n")`, `fgets`, `strtoull(…, 16)` and `strtol(…, 0)` with a 32-bit `long`,
over lists of characters, one character standing for one byte.
-/

namespace Fossilize.Supervisor

/-- `isspace` in the C locale. -/
def isSpace (c : Char) : Bool :=
  c == ' ' || c == '\t' || c == '\n' || c == '\x0b' || c == '\x0c' || c == '\r'

/-- The value of a digit or a letter as a digit, as `strtol` reads it in any base. -/
def digitValue (c : Char) : Option Nat :=
  if '0' ≤ c ∧ c ≤ '9' then some (c.toNat - '0'.toNat)
  else if 'a' ≤ c ∧ c ≤ 'z' then some (c.toNat - 'a'.toNat + 10)
  else if 'A' ≤ c ∧ c ≤ 'Z' then some (c.toNat - 'A'.toNat + 10)
  else none

/-- The digits of `base` that the text starts with. -/
def leadingDigits (base : Nat) : List Char → List Nat
  | [] => []
  | c :: s => match digitValue c with
    | some d => if d < base then d :: leadingDigits base s else []
    | none => []

/-- The number that digits spell, most significant first. -/
def digitsValue (base : Nat) (ds : List Nat) : Nat := ds.foldl (fun n d => n * base + d) 0

/-- An optional sign: whether it is a minus, and the text after it. -/
def splitSign : List Char → Bool × List Char
  | '-' :: s => (true, s)
  | '+' :: s => (false, s)
  | s => (false, s)

/-- A `0x` or `0X` prefix that a hex digit follows: only then do `strtoull` and `strtol`
skip it. -/
def hasHexPrefix : List Char → Bool
  | '0' :: x :: c :: _ => (x == 'x' || x == 'X') && !(leadingDigits 16 [c]).isEmpty
  | _ => false

/-- `strtoull(s, nullptr, 16)`, with whether it set `errno` to `ERANGE`: blanks, a sign, an
optional `0x`, then hex digits. A value past `ULLONG_MAX` gives `ULLONG_MAX`; a minus sign
negates modulo `2^64`. -/
def strtoull16 (s : List Char) : Hash × Bool :=
  let (negative, s) := splitSign (s.dropWhile isSpace)
  let v := digitsValue 16 (leadingDigits 16 (if hasHexPrefix s then s.drop 2 else s))
  if v < 2 ^ 64 then (if negative then 0 - UInt64.ofNat v else UInt64.ofNat v, false)
  else (UInt64.ofNat (2 ^ 64 - 1), true)

/-- `strtol(s, nullptr, 0)` for a 32-bit `long`: base 16 after `0x`, 8 after a leading `0`,
10 otherwise; a value out of range is clamped to `LONG_MIN` or `LONG_MAX`. -/
def strtol0 (s : List Char) : Int :=
  let (negative, s) := splitSign (s.dropWhile isSpace)
  let (base, s) :=
    if hasHexPrefix s then (16, s.drop 2) else if s.head? = some '0' then (8, s) else (10, s)
  let v : Int := digitsValue base (leadingDigits base s)
  max (-2 ^ 31) (min (if negative then -v else v) (2 ^ 31 - 1))

/-- `strncmp(cmd, literal, n) == 0` where `n` is the literal's length: the C string `cmd`
starts with the literal. -/
def startsWith (cmd literal : List Char) : Bool := literal.isPrefixOf cmd

/-- The characters `fgets` stores: at most `n`, through the first newline. -/
def takeLine : Nat → List Char → List Char
  | 0, _ => []
  | _, [] => []
  | n + 1, c :: s => if c = '\n' then [c] else c :: takeLine n s

/-- `fgets(buffer, size, stream)`: the line it reads and the rest of the stream, or `none` at
the end of the stream. -/
def fgets (size : Nat) (stream : List Char) : Option (List Char × List Char) :=
  if stream = [] then none
  else some (takeLine (size - 1) stream, stream.drop (takeLine (size - 1) stream).length)

/-- The blacklist loop of `run_slave_process`: the hashes it passes to
`mask_shader_module`, in order. It stops at the end of the stream or at a line that reads
as `0`, and skips a line that overflows. Every turn takes a character at least, so the
length of the stream is fuel enough. -/
def maskLoop : Nat → List Char → List Hash
  | 0, _ => []
  | fuel + 1, stdin => match fgets 18 stdin with
    | none => []
    | some (line, rest) =>
      if (strtoull16 line).1 = 0 then []
      else (if (strtoull16 line).2 then [] else [(strtoull16 line).1]) ++ maskLoop fuel rest

/-- The shader modules a worker masks, given what it reads on its standard input. -/
def maskedModules (stdin : List Char) : List Hash := maskLoop stdin.length stdin

/-- The hex digits of `n`, least significant first and `fuel` of them at most, as `%llx`
prints them: no leading zero, and `0` for zero. -/
def hexDigits : Nat → Nat → List Nat
  | 0, _ => []
  | fuel + 1, n => if n < 16 then [n] else n % 16 :: hexDigits fuel (n / 16)

def hexChar (d : Nat) : Char := "0123456789abcdef".toList.getD d '0'

/-- `%llx` of a 64-bit value. -/
def hexText (m : Hash) : List Char := (hexDigits 16 m.toNat).reverse.map hexChar

/-- `send_faulty_modules_and_close`: a line `sprintf("%llx\n")` per hash, in the order the
set is iterated; `write_all` sends the whole of each. -/
def sendFaultyModules (order : List Hash) : List Char :=
  order.flatMap fun m => hexText m ++ ['\n']

/-- The lines of `sendFaultyModules`, one `write_all` each. -/
def faultyModuleLines (order : List Hash) : List (List Char) :=
  order.map fun m => hexText m ++ ['\n']

/-! ## Reading a hex line back -/

theorem hexChar_digitValue {d : Nat} (h : d < 16) : digitValue (hexChar d) = some d := by
  have : ∀ d < 16, digitValue (hexChar d) = some d := by decide
  exact this d h

theorem hexChar_ne {d : Nat} (h : d < 16) :
    hexChar d ≠ '\n' ∧ hexChar d ≠ 'x' ∧ hexChar d ≠ 'X' ∧ isSpace (hexChar d) = false ∧
      hexChar d ≠ '-' ∧ hexChar d ≠ '+' := by
  have : ∀ d < 16, hexChar d ≠ '\n' ∧ hexChar d ≠ 'x' ∧ hexChar d ≠ 'X' ∧
      isSpace (hexChar d) = false ∧ hexChar d ≠ '-' ∧ hexChar d ≠ '+' := by decide
  exact this d h

theorem hexDigits_lt : ∀ {fuel n d : Nat}, d ∈ hexDigits fuel n → d < 16
  | 0, _, _, h => by simp [hexDigits] at h
  | fuel + 1, n, d, h => by
    unfold hexDigits at h
    split_ifs at h with hn
    · simp_all
    · rcases List.mem_cons.mp h with rfl | h
      · exact Nat.mod_lt _ (by decide)
      · exact hexDigits_lt h

theorem hexDigits_length_le : ∀ (fuel n : Nat), (hexDigits fuel n).length ≤ fuel
  | 0, _ => by simp [hexDigits]
  | fuel + 1, n => by
    unfold hexDigits
    split_ifs
    · simp
    · simpa using hexDigits_length_le fuel (n / 16)

theorem hexDigits_ne_nil (n : Nat) : hexDigits (fuel + 1) n ≠ [] := by
  unfold hexDigits; split_ifs <;> simp

theorem digitsValue_append (ds : List Nat) (d : Nat) :
    digitsValue 16 (ds ++ [d]) = digitsValue 16 ds * 16 + d := by
  simp [digitsValue, List.foldl_append]

theorem digitsValue_hexDigits : ∀ {fuel n : Nat}, n < 16 ^ fuel →
    digitsValue 16 (hexDigits fuel n).reverse = n
  | 0, n, h => by simp_all [hexDigits, digitsValue]
  | fuel + 1, n, h => by
    unfold hexDigits
    split_ifs with hn
    · simp [digitsValue]
    · rw [List.reverse_cons, digitsValue_append,
        digitsValue_hexDigits (by rw [Nat.pow_succ] at h; omega)]
      omega

theorem leadingDigits_hex (rest : List Char) :
    ∀ {ds : List Nat}, (∀ d ∈ ds, d < 16) → leadingDigits 16 (ds.map hexChar ++ '\n' :: rest) = ds
  | [], _ => rfl
  | d :: ds, h => by
    have hd := h d (List.mem_cons_self _ _)
    rw [List.map_cons, List.cons_append, leadingDigits, hexChar_digitValue hd]
    simp only [if_pos hd, leadingDigits_hex rest fun d hd => h d (List.mem_cons_of_mem _ hd)]

theorem takeLine_line {l : List Char} (rest : List Char) (hl : '\n' ∉ l) :
    ∀ {n : Nat}, l.length < n → takeLine n (l ++ '\n' :: rest) = l ++ ['\n'] := by
  induction l with
  | nil => intro n hn; cases n <;> simp_all [takeLine]
  | cons c l ih =>
    intro n hn
    cases n with
    | zero => simp at hn
    | succ n =>
      simp only [List.mem_cons, not_or] at hl
      simp [takeLine, Ne.symm hl.1, ih hl.2 (by simpa using hn)]

theorem hexText_digits (m : Hash) :
    ∀ c ∈ hexText m, ∃ d < 16, c = hexChar d := by
  intro c hc
  obtain ⟨d, hd, rfl⟩ := List.mem_map.mp hc
  exact ⟨d, hexDigits_lt (List.mem_reverse.mp hd), rfl⟩

theorem hexText_length (m : Hash) : (hexText m).length ≤ 16 := by
  simpa [hexText] using hexDigits_length_le 16 m.toNat

theorem splitSign_of_ne {c : Char} (s : List Char) (h1 : c ≠ '-') (h2 : c ≠ '+') :
    splitSign (c :: s) = (false, c :: s) := by
  unfold splitSign; split <;> simp_all

theorem hasHexPrefix_of_ne {c x : Char} (s : List Char) (h1 : x ≠ 'x') (h2 : x ≠ 'X') :
    hasHexPrefix (c :: x :: s) = false := by
  unfold hasHexPrefix; split <;> simp_all

/-- `strtol` clamps to `LONG_MAX`. -/
theorem strtol0_le (s : List Char) : strtol0 s ≤ 2 ^ 31 - 1 := by
  unfold strtol0
  split
  split
  exact Int.max_le.mpr ⟨by decide, Int.min_le_right _ _⟩

theorem ofNat_toNat (m : Hash) : UInt64.ofNat m.toNat = m :=
  UInt64.toNat.inj (UInt64.toNat_ofNat_of_lt m.toNat_lt_size)

/-- `strtoull(…, 16)` reads back the line `%llx\n` printed. -/
theorem strtoull16_hexLine (m : Hash) : strtoull16 (hexText m ++ ['\n']) = (m, false) := by
  obtain ⟨d, ds, hds⟩ := List.exists_cons_of_ne_nil
    (List.reverse_ne_nil_iff.mpr (hexDigits_ne_nil m.toNat : hexDigits 16 m.toNat ≠ []))
  have hall : ∀ e ∈ d :: ds, e < 16 := fun e he =>
    hexDigits_lt (List.mem_reverse.mp (hds ▸ he))
  have hd := hexChar_ne (hall d (List.mem_cons_self _ _))
  have hm : m.toNat < 16 ^ 16 := m.toNat_lt_size
  have hval : digitsValue 16 (d :: ds) = m.toNat := hds ▸ digitsValue_hexDigits hm
  have hprefix : hasHexPrefix ((d :: ds).map hexChar ++ ['\n']) = false := by
    cases ds with
    | nil => exact hasHexPrefix_of_ne _ (by decide) (by decide)
    | cons e es =>
      have he := hexChar_ne (hall e (by simp))
      exact hasHexPrefix_of_ne _ he.2.1 he.2.2.1
  have hstart : (List.map hexChar (d :: ds) ++ ['\n']).dropWhile isSpace =
      List.map hexChar (d :: ds) ++ ['\n'] := by simp [hd.2.2.2.1]
  have hsign : splitSign (List.map hexChar (d :: ds) ++ ['\n']) =
      (false, List.map hexChar (d :: ds) ++ ['\n']) :=
    splitSign_of_ne _ hd.2.2.2.2.1 hd.2.2.2.2.2
  simp only [hexText, hds, strtoull16, hstart, hsign, hprefix, leadingDigits_hex [] hall, hval,
    Bool.false_eq_true, if_false, if_pos (show m.toNat < 2 ^ 64 from m.toNat_lt_size), ofNat_toNat]

theorem fgets_hexLine (m : Hash) (rest : List Char) :
    fgets 18 (hexText m ++ '\n' :: rest) = some (hexText m ++ ['\n'], rest) := by
  have hnl : '\n' ∉ hexText m := fun h => by
    obtain ⟨d, hd, he⟩ := hexText_digits m _ h
    exact (hexChar_ne hd).1 he.symm
  have hs : hexText m ++ '\n' :: rest = (hexText m ++ ['\n']) ++ rest := by simp
  rw [fgets, if_neg (by simp), takeLine_line rest hnl (Nat.lt_succ_of_le (hexText_length m)), hs,
    List.drop_left]

/-- What the worker masks is what the supervisor sent up to the first `0`: a line that reads
as `0` ends the loop, so it and every hash after it are lost. -/
theorem maskLoop_sendFaultyModules : ∀ (order : List Hash) {fuel : Nat},
    (sendFaultyModules order).length ≤ fuel →
    maskLoop fuel (sendFaultyModules order) = order.takeWhile (· != 0)
  | [], fuel, _ => by cases fuel <;> simp [maskLoop, fgets, sendFaultyModules]
  | m :: order, 0, h => absurd h (by simp [sendFaultyModules])
  | m :: order, fuel + 1, h => by
    have hstream : sendFaultyModules (m :: order) = hexText m ++ '\n' :: sendFaultyModules order := by
      simp [sendFaultyModules]
    rw [hstream] at h ⊢
    have hrest : (sendFaultyModules order).length ≤ fuel := by simp at h; omega
    rw [maskLoop, fgets_hexLine]
    by_cases hm : m = 0
    · simp [strtoull16_hexLine, hm]
    · simp [strtoull16_hexLine, hm, maskLoop_sendFaultyModules order hrest]

theorem maskedModules_sendFaultyModules (order : List Hash) :
    maskedModules (sendFaultyModules order) = order.takeWhile (· != 0) :=
  maskLoop_sendFaultyModules order le_rfl

/-! ## Progress reports -/

/-- The decimal digits of `n`, least significant first and `fuel` of them at most, as `%u`
prints them: no leading zero, and `0` for zero. -/
def decDigits : Nat → Nat → List Nat
  | 0, _ => []
  | fuel + 1, n => if n < 10 then [n] else n % 10 :: decDigits fuel (n / 10)

/-- `%u` of a 32-bit value. -/
def decText (n : UInt32) : List Char := (decDigits 10 n.toNat).reverse.map hexChar

theorem decDigits_lt : ∀ {fuel n d : Nat}, d ∈ decDigits fuel n → d < 10
  | 0, _, _, h => by simp [decDigits] at h
  | fuel + 1, n, d, h => by
    unfold decDigits at h
    split_ifs at h with hn
    · simp_all
    · rcases List.mem_cons.mp h with rfl | h
      · exact Nat.mod_lt _ (by decide)
      · exact decDigits_lt h

/-- The digit printed first is not `0`, unless the value is. -/
theorem decDigits_reverse_cons : ∀ {fuel n : Nat}, 0 < n → n < 10 ^ fuel →
    ∃ d ds, (decDigits fuel n).reverse = d :: ds ∧ 0 < d
  | 0, n, _, h => by simp at h; omega
  | fuel + 1, n, hn, h => by
    unfold decDigits
    split_ifs with h10
    · exact ⟨n, [], rfl, hn⟩
    · obtain ⟨d, ds, hds, hd⟩ := @decDigits_reverse_cons fuel (n / 10)
        (Nat.div_pos (by omega) (by decide)) (by rw [Nat.pow_succ] at h; omega)
      exact ⟨d, ds ++ [n % 10], by rw [List.reverse_cons, hds, List.cons_append], hd⟩

theorem digitsValue_snoc (base : Nat) (ds : List Nat) (d : Nat) :
    digitsValue base (ds ++ [d]) = digitsValue base ds * base + d := by
  simp [digitsValue, List.foldl_append]

theorem digitsValue_decDigits : ∀ {fuel n : Nat}, n < 10 ^ fuel →
    digitsValue 10 (decDigits fuel n).reverse = n
  | 0, n, h => by simp_all [decDigits, digitsValue]
  | fuel + 1, n, h => by
    unfold decDigits
    split_ifs with hn
    · simp [digitsValue]
    · rw [List.reverse_cons, digitsValue_snoc,
        digitsValue_decDigits (by rw [Nat.pow_succ] at h; omega)]
      omega

theorem leadingDigits_of_lt {base : Nat} (hb : base ≤ 16) (rest : List Char) :
    ∀ {ds : List Nat}, (∀ d ∈ ds, d < base) →
      leadingDigits base (ds.map hexChar ++ '\n' :: rest) = ds
  | [], _ => rfl
  | d :: ds, h => by
    have hd := h d (List.mem_cons_self _ _)
    rw [List.map_cons, List.cons_append, leadingDigits, hexChar_digitValue (by omega)]
    simp only [if_pos hd, leadingDigits_of_lt hb rest fun d hd => h d (List.mem_cons_of_mem _ hd)]

theorem strtol0_space (s : List Char) : strtol0 (' ' :: s) = strtol0 s := by
  simp only [strtol0, List.dropWhile_cons, show isSpace ' ' = true from rfl, if_true]

/-- `strtol(…, 0)` of decimal digits with no leading zero reads their value, clamped to
`LONG_MAX`. -/
theorem strtol0_decimal {d : Nat} {ds : List Nat} (hd : 0 < d) (hall : ∀ e ∈ d :: ds, e < 10) :
    strtol0 ((d :: ds).map hexChar ++ ['\n']) = min (digitsValue 10 (d :: ds) : Int) (2 ^ 31 - 1) := by
  have hd10 := hall d (List.mem_cons_self _ _)
  have hc := hexChar_ne (show d < 16 by omega)
  have hzero : hexChar d ≠ '0' := by
    have : ∀ d < 10, 0 < d → hexChar d ≠ '0' := by decide
    exact this d hd10 hd
  have hprefix : hasHexPrefix ((d :: ds).map hexChar ++ ['\n']) = false := by
    cases ds with
    | nil => exact hasHexPrefix_of_ne _ (by decide) (by decide)
    | cons e es =>
      have he := hexChar_ne (show e < 16 by have := hall e (by simp); omega)
      exact hasHexPrefix_of_ne _ he.2.1 he.2.2.1
  have hstart : ((d :: ds).map hexChar ++ ['\n']).dropWhile isSpace =
      (d :: ds).map hexChar ++ ['\n'] := by simp [hc.2.2.2.1]
  have hsign : splitSign ((d :: ds).map hexChar ++ ['\n']) = (false, (d :: ds).map hexChar ++ ['\n']) :=
    splitSign_of_ne _ hc.2.2.2.2.1 hc.2.2.2.2.2
  have hhead : ((d :: ds).map hexChar ++ ['\n']).head? ≠ some '0' := by simpa using hzero
  simp only [strtol0, hstart, hsign, hprefix, Bool.false_eq_true, if_false, hhead,
    leadingDigits_of_lt (by decide) [] hall]
  omega

/-- `strtol(…, 0)` reads `%u` back, clamped to `LONG_MAX`: a value of `2^31` or more comes
back as `2^31 - 1`. A `0` is read in base 8, which gives 0 all the same. -/
theorem strtol0_decText (n : UInt32) :
    strtol0 (decText n ++ ['\n']) = min (n.toNat : Int) (2 ^ 31 - 1) := by
  rcases Nat.eq_zero_or_pos n.toNat with h0 | hpos
  · obtain rfl : n = 0 := UInt32.toNat.inj h0
    decide
  have hlt : n.toNat < 10 ^ 10 := lt_of_lt_of_le n.toNat_lt_size (by decide)
  obtain ⟨d, ds, hds, hd⟩ := decDigits_reverse_cons hpos hlt
  rw [decText, hds, strtol0_decimal hd fun e he => decDigits_lt (List.mem_reverse.mp (hds ▸ he)),
    ← hds, digitsValue_decDigits hlt]

end Fossilize.Supervisor
