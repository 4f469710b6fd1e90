import HeaderBidding.Proofs.AdSizes
import HeaderBidding.Wire.Head

/-!
# Messages are read from their bytes

The bytes of a text are that text, whatever its characters.  The head of a message ends at the first
empty line, so that what stands behind its bytes is the body, and its lines are read as they were
written if nothing in them ends a line.
-/

namespace HeaderBidding

/-! ## Texts -/

namespace Text.Utf8

theorem toNat_char_lt (c : Char) : c.toNat < 0x110000 := by
  rcases c.valid with low | high
  · exact Nat.lt_trans low (by decide)
  · exact high.2

theorem continuation?_ofNat {n : Nat} (bits : n < 64) :
    continuation? (.ofNat (0x80 + n)) = some n := by
  have small : 0x80 + n < UInt8.size := show _ < 256 by omega
  simp only [continuation?, UInt8.ofNat_lt_iff small, UInt8.le_ofNat_iff small, UInt8.reduceToNat,
    UInt8.toNat_ofNat_of_lt' small]
  rw [if_pos (by omega), Nat.add_sub_cancel_left]

theorem char?_toNat {least : Nat} {c : Char} (reaches : least ≤ c.toNat) :
    char? least c.toNat = some c := by
  have valid : c.toNat.isValidChar := c.valid
  rw [char?, if_pos ⟨reaches, valid⟩, Char.ofNat_toNat]

/-! A character is read from its bytes: one, or a first byte that says how many follow, each of which
holds six bits. -/

theorem decode?_of_one {n : Nat} (rest : List UInt8) (ascii : n < 0x80) :
    decode? (.ofNat n :: rest) = (decode? rest).map (Char.ofNat n :: ·) := by
  have small : n < UInt8.size := show _ < 256 by omega
  rw [decode?.eq_def]
  simp only [UInt8.ofNat_lt_iff small, UInt8.reduceToNat, UInt8.toNat_ofNat_of_lt' small]
  rw [if_pos ascii]

theorem decode?_of_two {a b : Nat} {c : Char} (rest : List UInt8) (first : a < 0x20)
    (second : b < 64) (value : c.toNat = a * 64 + b) (least : 0x80 ≤ c.toNat) :
    decode? (.ofNat (0xC0 + a) :: .ofNat (0x80 + b) :: rest) = (decode? rest).map (c :: ·) := by
  have small : 0xC0 + a < UInt8.size := show _ < 256 by omega
  rw [decode?.eq_def]
  simp only [UInt8.ofNat_lt_iff small, UInt8.le_ofNat_iff small, UInt8.reduceToNat,
    UInt8.toNat_ofNat_of_lt' small]
  rw [if_neg (by omega), if_pos (by omega)]
  simp only [continuation?_ofNat second, Option.bind_eq_bind, Option.bind_some,
    Nat.add_sub_cancel_left]
  rw [← value, char?_toNat least, Option.bind_some]

theorem decode?_of_three {a b c : Nat} {d : Char} (rest : List UInt8) (first : a < 0x10)
    (second : b < 64) (third : c < 64) (value : d.toNat = (a * 64 + b) * 64 + c)
    (least : 0x800 ≤ d.toNat) :
    decode? (.ofNat (0xE0 + a) :: .ofNat (0x80 + b) :: .ofNat (0x80 + c) :: rest) =
      (decode? rest).map (d :: ·) := by
  have small : 0xE0 + a < UInt8.size := show _ < 256 by omega
  rw [decode?.eq_def]
  simp only [UInt8.ofNat_lt_iff small, UInt8.le_ofNat_iff small, UInt8.reduceToNat,
    UInt8.toNat_ofNat_of_lt' small]
  rw [if_neg (by omega), if_neg (by omega), if_pos (by omega)]
  simp only [continuation?_ofNat second, continuation?_ofNat third, Option.bind_eq_bind,
    Option.bind_some, Nat.add_sub_cancel_left]
  rw [← value, char?_toNat least, Option.bind_some]

theorem decode?_of_four {a b c d : Nat} {e : Char} (rest : List UInt8) (first : a < 0x08)
    (second : b < 64) (third : c < 64) (fourth : d < 64)
    (value : e.toNat = ((a * 64 + b) * 64 + c) * 64 + d) (least : 0x10000 ≤ e.toNat) :
    decode? (.ofNat (0xF0 + a) :: .ofNat (0x80 + b) :: .ofNat (0x80 + c) :: .ofNat (0x80 + d) ::
      rest) = (decode? rest).map (e :: ·) := by
  have small : 0xF0 + a < UInt8.size := show _ < 256 by omega
  rw [decode?.eq_def]
  simp only [UInt8.ofNat_lt_iff small, UInt8.le_ofNat_iff small, UInt8.reduceToNat,
    UInt8.toNat_ofNat_of_lt' small]
  rw [if_neg (by omega), if_neg (by omega), if_neg (by omega), if_pos (by omega)]
  simp only [continuation?_ofNat second, continuation?_ofNat third, continuation?_ofNat fourth,
    Option.bind_eq_bind, Option.bind_some, Nat.add_sub_cancel_left]
  rw [← value, char?_toNat least, Option.bind_some]

/-- The first character of a text comes from its own bytes. -/
theorem decode?_encodeChar_append (c : Char) (rest : List UInt8) :
    decode? (encodeChar c ++ rest) = (decode? rest).map (c :: ·) := by
  have bound := toNat_char_lt c
  have mod (n : Nat) : n % 64 < 64 := Nat.mod_lt n (by decide)
  rw [encodeChar]
  split_ifs with one two three
  · rw [List.singleton_append, decode?_of_one rest one, Char.ofNat_toNat]
  · exact decode?_of_two rest (by omega) (mod _) (by omega) (by omega)
  · exact decode?_of_three rest (by omega) (mod _) (mod _) (by omega) (by omega)
  · exact decode?_of_four rest (by omega) (mod _) (mod _) (mod _) (by omega) (by omega)

/-- The bytes of a text are read as the text. -/
theorem decode?_encode (s : List Char) : decode? (encode s) = some s := by
  induction s with
  | nil => rw [encode, List.flatMap_nil, decode?]
  | cons c s ih =>
      rw [encode] at ih ⊢
      rw [List.flatMap_cons, decode?_encodeChar_append, ih, Option.map_some]

theorem encode_append (s t : List Char) : encode (s ++ t) = encode s ++ encode t :=
  List.flatMap_append

/-- A byte below `128` stands for a character of its own. -/
theorem toNat_eq_of_mem_encodeChar {b : UInt8} {c : Char} (low : b.toNat < 0x80)
    (mem : b ∈ encodeChar c) : c.toNat = b.toNat := by
  have bound := toNat_char_lt c
  have marked {n : Nat} (isMarked : 0x80 ≤ n) (small : n < 256) :
      ¬(UInt8.ofNat n).toNat < 0x80 := by
    rw [UInt8.toNat_ofNat_of_lt' small]
    exact Nat.not_lt.mpr isMarked
  rw [encodeChar] at mem
  split_ifs at mem with one two three <;>
    simp only [List.mem_cons, List.not_mem_nil, or_false] at mem
  · rw [mem, UInt8.toNat_ofNat_of_lt' (one.trans (by decide))]
  · rcases mem with rfl | rfl <;> exact absurd low (marked (by omega) (by omega))
  · rcases mem with rfl | rfl | rfl <;> exact absurd low (marked (by omega) (by omega))
  · rcases mem with rfl | rfl | rfl | rfl <;> exact absurd low (marked (by omega) (by omega))

theorem return_not_mem_encode {s : List Char} (absent : '\r' ∉ s) : 13 ∉ encode s := by
  intro mem
  obtain ⟨c, inText, inChar⟩ := List.mem_flatMap.mp mem
  have same : c.toNat = 13 := toNat_eq_of_mem_encodeChar (by decide) inChar
  rw [Char.toNat_inj.mp (same.trans (by decide : 13 = '\r'.toNat))] at inText
  exact absent inText

end Text.Utf8

/-! ## Heads -/

namespace Wire

open Text (segments segments_eq_splitOn)
open Text.Utf8 (encode encode_append decode?_encode return_not_mem_encode)

/-- A line of a head: it is not empty, and nothing in it ends it. -/
structure IsLine (line : List Char) : Prop where
  nonempty : line ≠ []
  noReturn : '\r' ∉ line
  noBreak : '\n' ∉ line

/-- Lines with an end in front of each. -/
def followed (lines : List (List Char)) : List Char :=
  lines.flatMap fun line => '\r' :: '\n' :: line

variable {line : List Char} {lines : List (List Char)}

/-- A head that is there stays as it is when more bytes come. -/
theorem cutHead?_append_of_some {s head after : List UInt8} (cut : cutHead? s = some (head, after))
    (more : List UInt8) : cutHead? (s ++ more) = some (head, after ++ more) := by
  fun_induction cutHead? s generalizing head with
  | case1 rest =>
      obtain ⟨rfl, rfl⟩ := Prod.mk.inj (Option.some.inj cut)
      rfl
  | case2 b rest goesOn ih =>
      obtain ⟨⟨inner, behind⟩, inside, same⟩ := Option.map_eq_some_iff.mp cut
      obtain ⟨rfl, rfl⟩ := Prod.mk.inj same
      rw [List.cons_append, cutHead?, ih inside, Option.map_some]
      rintro below rfl appended
      -- Where a head has been cut, there are bytes enough to see that the line is not empty.
      rcases rest with _ | ⟨x, _ | ⟨y, _ | ⟨z, rest⟩⟩⟩
      · contradiction
      · simp [cutHead?] at inside
      · simp [cutHead?] at inside
      · obtain ⟨rfl, rfl, rfl, -⟩ : x = 10 ∧ y = 13 ∧ z = 10 ∧ rest ++ more = below := by
          simpa using appended
        exact goesOn rest rfl rfl
  | case3 => contradiction

/-- A head without a line end in it goes on. -/
theorem cutHead?_append {s : List UInt8} (absent : 13 ∉ s) (rest : List UInt8) :
    cutHead? (s ++ rest) = (cutHead? rest).map fun (head, after) => (s ++ head, after) := by
  induction s with
  | nil => simp
  | cons b s ih =>
      obtain ⟨other, absent⟩ := List.ne_and_not_mem_of_not_mem_cons absent
      rw [List.cons_append, cutHead?, ih absent, Option.map_map]
      · rfl
      · rintro _ rfl
        contradiction

theorem encode_ne_nil {s : List Char} (nonempty : s ≠ []) : encode s ≠ [] := by
  obtain ⟨c, s, rfl⟩ := List.exists_cons_of_ne_nil nonempty
  intro empty
  have read := decode?_encode (c :: s)
  rw [empty, Text.Utf8.decode?] at read
  exact absurd (Option.some.inj read) (List.cons_ne_nil c s).symm

/-- Behind a line end, a head goes on unless an empty line follows. -/
theorem cutHead?_followed_line (isLine : IsLine line) (rest : List UInt8) :
    cutHead? (13 :: 10 :: encode line ++ rest) =
      (cutHead? rest).map fun (head, after) => (13 :: 10 :: encode line ++ head, after) := by
  have absent : 13 ∉ encode line := return_not_mem_encode isLine.noReturn
  have absent' : 13 ∉ 10 :: encode line := by simpa using absent
  obtain ⟨b, s, bytes⟩ := List.exists_cons_of_ne_nil (encode_ne_nil isLine.nonempty)
  rw [List.cons_append, cutHead?, cutHead?_append absent', Option.map_map]
  · rfl
  · intro after _ same
    rw [bytes] at absent same
    obtain ⟨-, same⟩ := List.cons.inj same
    obtain ⟨rfl, -⟩ := List.cons.inj same
    exact absent List.mem_cons_self

/-- A head ends at the first empty line. -/
theorem cutHead?_followed (areLines : ∀ line ∈ lines, IsLine line) (body : List UInt8) :
    cutHead? (encode (followed lines) ++ 13 :: 10 :: 13 :: 10 :: body) =
      some (encode (followed lines), body) := by
  induction lines with
  | nil => rfl
  | cons line lines ih =>
      obtain ⟨isLine, areLines⟩ := List.forall_mem_cons.mp areLines
      have bytes : encode (followed (line :: lines)) =
          13 :: 10 :: encode line ++ encode (followed lines) :=
        encode_append ('\r' :: '\n' :: line) (followed lines)
      rw [bytes, List.append_assoc, cutHead?_followed_line isLine, ih areLines, Option.map_some]

/-- The lines of a head are the segments between its line breaks. -/
theorem segments_followed (isLine : IsLine line) (areLines : ∀ line ∈ lines, IsLine line) :
    segments '\n' ((line ++ followed lines).filter (· != '\r')) = line :: lines := by
  have kept {line : List Char} (isLine : IsLine line) : line.filter (· != '\r') = line :=
    List.filter_eq_self.mpr fun c mem => bne_iff_ne.mpr fun same => isLine.noReturn (same ▸ mem)
  rw [segments_eq_splitOn]
  induction lines generalizing line with
  | nil => rw [followed, List.flatMap_nil, List.append_nil, kept isLine,
      List.splitOn_eq_singleton isLine.noBreak]
  | cons next lines ih =>
      obtain ⟨isNext, areLines⟩ := List.forall_mem_cons.mp areLines
      have split : (line ++ followed (next :: lines)).filter (· != '\r') =
          line ++ '\n' :: (next ++ followed lines).filter (· != '\r') := by
        rw [List.filter_append, kept isLine]
        rfl
      rw [split, List.splitOn_append_cons_self_of_not_mem isLine.noBreak, ih isNext areLines]

/-! ### Headers -/

/-- Whether a character of a name is read as it is written. -/
def isNameChar (c : Char) : Bool :=
  c.toLower == c && c ∉ [':', '\r', '\n']

/-- A name of a header that is read as it is written. -/
structure IsName (name : List Char) : Prop where
  nonempty : name ≠ []
  chars : name.all isNameChar = true

/-- A header that is read as it is written. -/
structure IsPlain (header : String × String) : Prop where
  isName : IsName header.1.toList
  value : ∀ c ∈ header.2.toList, c ∉ ['\r', '\n']
  isTrimmed : trimmed header.2.toList = header.2.toList

/-- The line of a header. -/
def headerLine (header : String × String) : List Char :=
  header.1.toList ++ ':' :: ' ' :: header.2.toList

variable {header : String × String}

theorem IsName.lower {name : List Char} (isName : IsName name) : name.map Char.toLower = name := by
  refine (List.map_congr_left fun c mem => ?_).trans (List.map_id' name)
  have char := List.all_eq_true.mp isName.chars c mem
  exact beq_iff_eq.mp (Bool.and_eq_true_iff.mp char).1

theorem IsName.not_mem {name : List Char} (isName : IsName name) {c : Char}
    (mark : c ∈ [':', '\r', '\n']) : c ∉ name := by
  intro mem
  have char := List.all_eq_true.mp isName.chars c mem
  simp [isNameChar, mark] at char

theorem IsPlain.isLine (isPlain : IsPlain header) : IsLine (headerLine header) where
  nonempty := by simp [headerLine]
  noReturn := by
    have name := isPlain.isName.not_mem (c := '\r') (by simp)
    have value := isPlain.value '\r'
    simp_all [headerLine]
  noBreak := by
    have name := isPlain.isName.not_mem (c := '\n') (by simp)
    have value := isPlain.value '\n'
    simp_all [headerLine]

theorem headerOf?_headerLine (isPlain : IsPlain header) :
    headerOf? (headerLine header) = some header := by
  obtain ⟨name, value⟩ := header
  have before : ∀ c ∈ name.toList, (c != ':') = true := fun c mem =>
    bne_iff_ne.mpr fun same => isPlain.isName.not_mem (by simp) (same ▸ mem)
  have outer : trimmed (' ' :: value.toList) = value.toList := isPlain.isTrimmed
  have front : (headerLine (name, value)).takeWhile (· != ':') = name.toList := by
    rw [headerLine, List.takeWhile_append_of_pos before]
    exact List.append_nil _
  have back : (headerLine (name, value)).dropWhile (· != ':') = ':' :: ' ' :: value.toList := by
    rw [headerLine, List.dropWhile_append_of_pos before]
    rfl
  rw [headerOf?, front, back]
  split
  · exact absurd ‹_› isPlain.isName.nonempty
  · contradiction
  · rename_i same _
    obtain ⟨-, rfl⟩ := List.cons.inj same
    rw [isPlain.isName.lower, outer, String.ofList_toList, String.ofList_toList]

theorem mapM_headerOf? {headers : List (String × String)}
    (arePlain : ∀ header ∈ headers, IsPlain header) :
    (headers.map headerLine).mapM headerOf? = some headers := by
  induction headers with
  | nil => rfl
  | cons header headers ih =>
      obtain ⟨isPlain, arePlain⟩ := List.forall_mem_cons.mp arePlain
      rw [List.map_cons, List.mapM_cons, headerOf?_headerLine isPlain, ih arePlain]
      rfl

/-! ### Whole heads -/

/-- A head whose lines are read as they are written. -/
structure Head.IsSound (head : Head) : Prop where
  start : IsLine head.start.toList
  headers : ∀ header ∈ head.headers, IsPlain header

/-- The text of a head, without the two line ends behind it. -/
def Head.text (head : Head) : List Char :=
  head.start.toList ++ followed (head.headers.map headerLine)

theorem flatMap_line (first : String) (others : List String) :
    ((first :: others).map Wire.line).flatMap String.toList =
      first.toList ++ followed (others.map String.toList) ++ ['\r', '\n'] := by
  induction others generalizing first with
  | nil => simp [Wire.line, followed]
  | cons next others ih =>
      rw [List.map_cons, List.flatMap_cons, ih next]
      simp [Wire.line, followed]

theorem Head.bytes_eq (head : Head) : head.bytes = encode head.text ++ [13, 10, 13, 10] := by
  have ends : encode ['\r', '\n', '\r', '\n'] = [13, 10, 13, 10] := by rfl
  have lines : headerLine = fun header => header.1.toList ++ ':' :: ' ' :: header.2.toList := by
    rfl
  rw [Head.bytes, List.cons_append, flatMap_line, List.map_append, List.map_map, ← ends,
    ← encode_append]
  simp [Head.text, followed, lines, Function.comp_def]

/-- Of the bytes of a message, those in front of the first empty line are the head. -/
theorem Head.cutHead?_bytes {head : Head} (isSound : head.IsSound) (body : List UInt8) :
    cutHead? (head.bytes ++ body) = some (encode head.text, body) := by
  have areLines : ∀ line ∈ head.headers.map headerLine, IsLine line :=
    List.forall_mem_map.mpr fun header mem => (isSound.headers header mem).isLine
  rw [head.bytes_eq, Head.text, encode_append, List.append_assoc, List.append_assoc,
    cutHead?_append (return_not_mem_encode isSound.start.noReturn)]
  exact congrArg _ (cutHead?_followed areLines body)

/-- A head is read from its bytes. -/
theorem Head.ofBytes?_text {head : Head} (isSound : head.IsSound) :
    Head.ofBytes? (encode head.text) = some head := by
  have areLines : ∀ line ∈ head.headers.map headerLine, IsLine line :=
    List.forall_mem_map.mpr fun header mem => (isSound.headers header mem).isLine
  rw [Head.ofBytes?, decode?_encode, Option.map_some, Head.text,
    segments_followed isSound.start areLines]
  simp only [mapM_headerOf? isSound.headers, Option.map_some, String.ofList_toList]

end Wire

end HeaderBidding
