import HeaderBidding.Json.Scan

/-!
# Texts in documents

`writeText` writes a text in double quotes, `readText` reads one whose opening quote has been
read. Only the quote, the backslash and the control characters below the space are escaped on
writing; reading also knows the escaped slash and escapes by code, where a character beyond the
first plane is a pair of surrogates. `skipText` passes over a text that is not kept and looks less
closely: any four hexadecimal digits will do.
-/

namespace HeaderBidding.Json

/-! ## Writing -/

/-- A character inside a quoted text. -/
def escapeChar (c : Char) : List Char :=
  if c = '"' then ['\\', '"']
  else if c = '\\' then ['\\', '\\']
  else if c = '\x08' then ['\\', 'b']
  else if c = '\x0c' then ['\\', 'f']
  else if c = '\n' then ['\\', 'n']
  else if c = '\r' then ['\\', 'r']
  else if c = '\t' then ['\\', 't']
  else if c < ' ' then
    ['\\', 'u', '0', '0', Decimal.hexDigit (c.toNat / 16), Decimal.hexDigit (c.toNat % 16)]
  else [c]

/-- A text in double quotes. -/
def writeText (s : List Char) : List Char :=
  '"' :: s.flatMap escapeChar ++ ['"']

/-! ## Reading -/

/-- The fault of a text that does not begin with four hexadecimal digits. The four places are
counted in bytes. -/
def hexFault (s : List Char) : Fault :=
  if byteCount s < 4 then ⟨.endInText, 0⟩ else ⟨.invalidEscape, byteCount s - 4⟩

/-- Reads four hexadecimal digits. -/
def readHex (s : List Char) : Except Fault (Nat × List Char) :=
  match s with
  | a :: b :: c :: d :: r =>
    match Decimal.hexValue? a, Decimal.hexValue? b, Decimal.hexValue? c, Decimal.hexValue? d with
    | some a, some b, some c, some d => .ok (((a * 16 + b) * 16 + c) * 16 + d, r)
    | _, _, _, _ => .error (hexFault s)
  | _ => .error (hexFault s)

theorem readHex_shrinks {s r : List Char} {n : Nat} (h : readHex s = .ok (n, r)) :
    r.length < s.length := by
  unfold readHex at h
  split at h
  · split at h <;> simp_all
    omega
  · simp at h

/-- Whether a code is the first of a pair of surrogates. -/
def isLeading (n : Nat) : Bool :=
  0xD800 ≤ n && n ≤ 0xDBFF

/-- Whether a code is the second of a pair of surrogates. -/
def isTrailing (n : Nat) : Bool :=
  0xDC00 ≤ n && n ≤ 0xDFFF

/-- Reads the second half of a pair of surrogates. -/
def readTrailing (leading : Nat) (s : List Char) : Except Fault (Char × List Char) :=
  match s with
  | [] => .error (.before .endInText [])
  | '\\' :: [] => .error (.before .endInText [])
  | '\\' :: 'u' :: r =>
    match readHex r with
    | .error f => .error f
    | .ok (n, t) =>
      if isTrailing n then
        .ok (Char.ofNat (0x10000 + (leading - 0xD800) * 1024 + (n - 0xDC00)), t)
      else .error (.before .loneSurrogate t)
  | '\\' :: r => .error (.within .unfinishedEscape r)
  | r => .error (.within .unfinishedEscape r)

theorem readTrailing_shrinks {n : Nat} {s r : List Char} {c : Char}
    (h : readTrailing n s = .ok (c, r)) : r.length < s.length := by
  unfold readTrailing at h
  split at h
  · simp at h
  · simp at h
  · split at h
    · simp at h
    · rename_i heq
      have := readHex_shrinks heq
      split at h <;> simp_all
      omega
  · simp at h
  · simp at h

/-- Reads an escape behind its backslash. -/
def readEscape (s : List Char) : Except Fault (Char × List Char) :=
  match s with
  | [] => .error (.before .endInText [])
  | '"' :: r => .ok ('"', r)
  | '\\' :: r => .ok ('\\', r)
  | '/' :: r => .ok ('/', r)
  | 'b' :: r => .ok ('\x08', r)
  | 'f' :: r => .ok ('\x0c', r)
  | 'n' :: r => .ok ('\n', r)
  | 'r' :: r => .ok ('\r', r)
  | 't' :: r => .ok ('\t', r)
  | 'u' :: r =>
    match readHex r with
    | .error f => .error f
    | .ok (n, t) =>
      if isTrailing n then .error (.before .loneSurrogate t)
      else if isLeading n then readTrailing n t
      else .ok (Char.ofNat n, t)
  | c :: r => .error (.within .invalidEscape (c :: r))

theorem readEscape_shrinks {s r : List Char} {c : Char} (h : readEscape s = .ok (c, r)) :
    r.length < s.length := by
  unfold readEscape at h
  split at h
  case h_10 =>
    split at h
    · simp at h
    · rename_i heq
      have := readHex_shrinks heq
      split at h
      · simp at h
      · split at h
        · have := readTrailing_shrinks h
          simp only [List.length_cons]
          omega
        · simp_all
          omega
  case h_1 | h_11 => simp at h
  all_goals
    obtain ⟨-, rfl⟩ := Prod.mk.inj (Except.ok.inj h)
    exact Nat.lt_succ_self _

/-- Reads a text behind its opening quote. -/
def readText (s : List Char) : Except Fault (List Char × List Char) :=
  match s with
  | [] => .error (.before .endInText [])
  | '"' :: r => .ok ([], r)
  | '\\' :: r =>
    match h : readEscape r with
    | .error f => .error f
    | .ok (c, t) =>
      have := readEscape_shrinks h
      match readText t with
      | .error f => .error f
      | .ok (cs, u) => .ok (c :: cs, u)
  | c :: r =>
    if c < ' ' then .error (.within .controlCharacter (c :: r))
    else match readText r with
      | .error f => .error f
      | .ok (cs, u) => .ok (c :: cs, u)
termination_by s.length

theorem readText_shrinks {s cs r : List Char} (h : readText s = .ok (cs, r)) :
    r.length < s.length := by
  fun_induction readText s generalizing cs r with
  | case1 => simp at h
  | case2 => simp_all
  | case3 => simp at h
  | case4 => simp at h
  | case5 r c t he hs cs' u hu ih =>
    have := ih hu
    simp_all
    omega
  | case6 => simp at h
  | case7 => simp at h
  | case8 c r _ _ _ cs' u hu ih =>
    have := ih hu
    simp_all
    omega

/-! ## Passing over -/

/-- Passes over an escape behind its backslash. -/
def skipEscape (s : List Char) : Except Fault (List Char) :=
  match s with
  | [] => .error (.before .endInText [])
  | 'u' :: r =>
    match readHex r with
    | .error f => .error f
    | .ok (_, t) => .ok t
  | c :: r =>
    if c ∈ ['"', '\\', '/', 'b', 'f', 'n', 'r', 't'] then .ok r
    else .error (.within .invalidEscape (c :: r))

theorem skipEscape_shrinks {s r : List Char} (h : skipEscape s = .ok r) :
    r.length < s.length := by
  unfold skipEscape at h
  split at h
  · simp at h
  · split at h
    · simp at h
    · rename_i heq
      have := readHex_shrinks heq
      simp_all
      omega
  · split at h <;> simp_all

/-- Passes over a text behind its opening quote. -/
def skipText (s : List Char) : Except Fault (List Char) :=
  match s with
  | [] => .error (.before .endInText [])
  | '"' :: r => .ok r
  | '\\' :: r =>
    match h : skipEscape r with
    | .error f => .error f
    | .ok t =>
      have := skipEscape_shrinks h
      skipText t
  | c :: r => if c < ' ' then .error (.before .controlCharacter (c :: r)) else skipText r
termination_by s.length

theorem skipText_shrinks {s r : List Char} (h : skipText s = .ok r) : r.length < s.length := by
  fun_induction skipText s with
  | case1 => simp at h
  | case2 => simp_all
  | case3 => simp at h
  | case4 r t he hs ih =>
    have := ih h
    simp only [List.length_cons]
    omega
  | case5 => simp at h
  | case6 c r _ _ _ ih =>
    have := ih h
    simp only [List.length_cons]
    omega

end HeaderBidding.Json
