import UtilityCss.Color.Conversion
import UtilityCss.Color.Hex
import UtilityCss.Proofs.Color.Literal

/-!
# Which texts are hexadecimal colors, and what they stand for

A color is written by three, four, six or eight digits. Blanks may stand around them and any number of signs
in front, and neither these nor the case of the digits matters. The literal with one sign in front of the
same digits is the same color, also when its channels are held in single precision in between. Digits are
those of ASCII: no other character has a value here.
-/
namespace UtilityCss.Color

open UtilityCss.Text

variable {text other : String} {digits cs : List Char} {c : Rgb}

/-! ## Written colors -/

/-- The text writes a color by the digits, with blanks at both ends and signs in front of the digits. -/
inductive WritesDigits : String → List Char → Prop where
  | color {text : String} {front signs digits back : List Char}
      (whole : text.toList = front ++ (signs ++ digits) ++ back) (before : ∀ c ∈ front, isBlank c = true)
      (marked : ∀ c ∈ signs, c = '#') (hex : ∀ c ∈ digits, isHexDigit c = true)
      (count : digits.length ∈ [3, 4, 6, 8]) (after : ∀ c ∈ back, isBlank c = true) :
      WritesDigits text digits

/-- The channels that digits stand for: in a short form each digit counts 17 times, in a long form the first
of two digits counts 16 times. Digits behind those of the three channels do not count. -/
inductive Denotes : List Char → Rgb → Prop where
  | short {r g b : Char} {x y z : Nat} {alpha : List Char} {c : Rgb} (red : hexValue? r = some x)
      (green : hexValue? g = some y) (blue : hexValue? b = some z) (few : alpha.length ≤ 1)
      (channels : c.red.toNat = 17 * x ∧ c.green.toNat = 17 * y ∧ c.blue.toNat = 17 * z) :
      Denotes (r :: g :: b :: alpha) c
  | long {r r' g g' b b' : Char} {x x' y y' z z' : Nat} {alpha : List Char} {c : Rgb}
      (red : hexValue? r = some x ∧ hexValue? r' = some x')
      (green : hexValue? g = some y ∧ hexValue? g' = some y')
      (blue : hexValue? b = some z ∧ hexValue? b' = some z')
      (channels : c.red.toNat = 16 * x + x' ∧ c.green.toNat = 16 * y + y' ∧
        c.blue.toNat = 16 * z + z') :
      Denotes (r :: r' :: g :: g' :: b :: b' :: alpha) c

theorem isBlank_of_isHexDigit {a : Char} (hex : isHexDigit a = true) : isBlank a = false := by
  have ascii : a.toNat < 128 := toNat_lt_of_isHexDigit hex
  revert hex
  exact of_ascii (P := fun a => isHexDigit a = true → isBlank a = false) (by decide +kernel) ascii

theorem hexValue?_lt {a : Char} {v : Nat} (value : hexValue? a = some v) : v < 16 := by
  have ascii : a.toNat < 128 := toNat_lt_of_isHexDigit (by rw [isHexDigit, value]; rfl)
  have all : ∀ a : Char, a.toNat < 128 → ∀ v ∈ hexValue? a, v < 16 :=
    fun a => of_ascii (P := fun a => ∀ v ∈ hexValue? a, v < 16) (by decide +kernel)
  exact all a ascii v value

/-- Signs and digits are not blank, so trimming takes the blanks and no more. -/
theorem trimmed_signs_append {signs : List Char} (marked : ∀ c ∈ signs, c = '#')
    (hex : ∀ c ∈ digits, isHexDigit c = true) : Trimmed isBlank (signs ++ digits) := by
  refine trimmed_of_forall fun c inside => ?_
  rcases List.mem_append.mp inside with sign | digit
  · rw [marked c sign]
    decide
  · exact isBlank_of_isHexDigit (hex c digit)

theorem hexDigits_of_writesDigits (written : WritesDigits text digits) :
    hexDigits text.toList = digits := by
  cases written with
  | color whole before marked hex count after =>
    rw [hexDigits, whole, trim_append before (trimmed_signs_append marked hex) after]
    refine dropWhile_append_eq (fun c sign => by rw [marked c sign]; rfl) fun c first => ?_
    rw [beq_eq_false_iff_ne]
    rintro rfl
    exact absurd (hex '#' (List.mem_of_mem_head? first)) (by decide)

/-- The digits of a written color are found, and nothing else is taken for digits. -/
theorem writesDigits_iff : WritesDigits text digits ↔ hexDigits text.toList = digits ∧
    (∀ c ∈ digits, isHexDigit c = true) ∧ digits.length ∈ [3, 4, 6, 8] := by
  constructor
  · intro written
    refine ⟨hexDigits_of_writesDigits written, ?_⟩
    cases written with
    | color whole before marked hex count after => exact ⟨hex, count⟩
  · rintro ⟨found, hex, count⟩
    obtain ⟨front, back, whole, before, after⟩ := exists_trim isBlank text.toList
    have marked : ∀ c ∈ (trim isBlank text.toList).takeWhile (· == '#'), c = '#' :=
      fun c sign => beq_iff_eq.mp (List.mem_takeWhile_imp (p := (· == '#')) sign)
    refine .color ?_ before marked hex count after
    rw [← found, hexDigits, List.takeWhile_append_dropWhile]
    exact whole

/-- Without blanks signs and digits are a written color. -/
theorem WritesDigits.ofSigns {signs : List Char} (whole : text.toList = signs ++ digits)
    (marked : ∀ c ∈ signs, c = '#') (hex : ∀ c ∈ digits, isHexDigit c = true)
    (count : digits.length ∈ [3, 4, 6, 8]) : WritesDigits text digits :=
  @WritesDigits.color text [] signs digits [] (by simpa using whole) (List.forall_mem_nil _) marked hex
    count (List.forall_mem_nil _)

/-! ## What digits stand for -/

theorem exists_hexPair? {a b : Char} (first : isHexDigit a = true) (second : isHexDigit b = true) :
    ∃ h l byte, hexValue? a = some h ∧ hexValue? b = some l ∧ hexPair? a b = some byte ∧
      byte.toNat = 16 * h + l := by
  obtain ⟨h, high⟩ := Option.isSome_iff_exists.mp first
  obtain ⟨l, low⟩ := Option.isSome_iff_exists.mp second
  refine ⟨h, l, UInt8.ofNat (16 * h + l), high, low, by rw [hexPair?, high, low], ?_⟩
  have highBound := hexValue?_lt high
  have lowBound := hexValue?_lt low
  rw [UInt8.toNat_ofNat']
  omega

/-- A digit that stands for two counts 17 times. -/
theorem exists_hexPair?_self {a : Char} (digit : isHexDigit a = true) :
    ∃ v byte, hexValue? a = some v ∧ hexPair? a a = some byte ∧ byte.toNat = 17 * v := by
  obtain ⟨h, l, byte, high, low, pair, value⟩ := exists_hexPair? digit digit
  have same : l = h := Option.mem_unique low high
  exact ⟨h, byte, high, pair, by omega⟩

theorem ofHexDigits?_short {r g b : Char} {alpha : List Char} (few : alpha.length ≤ 1)
    (red : hexPair? r r = some c.red) (green : hexPair? g g = some c.green)
    (blue : hexPair? b b = some c.blue) : ofHexDigits? (r :: g :: b :: alpha) = some c := by
  match alpha with
  | [] | [_] => simp [ofHexDigits?, red, green, blue]
  | _ :: _ :: _ => simp at few

theorem ofHexDigits?_long {r r' g g' b b' : Char} {alpha : List Char}
    (pair : alpha.length = 0 ∨ alpha.length = 2) (red : hexPair? r r' = some c.red)
    (green : hexPair? g g' = some c.green) (blue : hexPair? b b' = some c.blue) :
    ofHexDigits? (r :: r' :: g :: g' :: b :: b' :: alpha) = some c := by
  match alpha with
  | [] | [_, _] => simp [ofHexDigits?, red, green, blue]
  | [_] => simp at pair
  | _ :: _ :: _ :: _ => simp at pair

/-- As many digits as a color has are read, and read as what they stand for. -/
theorem exists_ofHexDigits? (hex : ∀ c ∈ digits, isHexDigit c = true)
    (count : digits.length ∈ [3, 4, 6, 8]) :
    ∃ c, ofHexDigits? digits = some c ∧ Denotes digits c := by
  match digits with
  | r :: r' :: g :: g' :: b :: b' :: alpha =>
    simp only [List.forall_mem_cons] at hex
    obtain ⟨hr, hr', hg, hg', hb, hb', -⟩ := hex
    obtain ⟨x, x', red, first, first', redPair, redValue⟩ := exists_hexPair? hr hr'
    obtain ⟨y, y', green, second, second', greenPair, greenValue⟩ := exists_hexPair? hg hg'
    obtain ⟨z, z', blue, third, third', bluePair, blueValue⟩ := exists_hexPair? hb hb'
    have pair : alpha.length = 0 ∨ alpha.length = 2 := by simpa using count
    exact ⟨⟨red, green, blue⟩, ofHexDigits?_long pair redPair greenPair bluePair,
      .long ⟨first, first'⟩ ⟨second, second'⟩ ⟨third, third'⟩ ⟨redValue, greenValue, blueValue⟩⟩
  | [r, g, b] | [r, g, b, _] =>
    simp only [List.forall_mem_cons] at hex
    obtain ⟨hr, hg, hb, -⟩ := hex
    obtain ⟨x, red, first, redPair, redValue⟩ := exists_hexPair?_self hr
    obtain ⟨y, green, second, greenPair, greenValue⟩ := exists_hexPair?_self hg
    obtain ⟨z, blue, third, bluePair, blueValue⟩ := exists_hexPair?_self hb
    exact ⟨⟨red, green, blue⟩, ofHexDigits?_short (by simp) redPair greenPair bluePair,
      .short first second third (by simp) ⟨redValue, greenValue, blueValue⟩⟩
  | [] | [_] | [_, _] | [_, _, _, _, _] => simp at count

/-- Any other number of digits is refused. -/
theorem ofHexDigits?_of_count (count : digits.length ∉ [3, 4, 6, 8]) : ofHexDigits? digits = none := by
  match digits with
  | [_, _, _] | [_, _, _, _] | [_, _, _, _, _, _] | [_, _, _, _, _, _, _, _] => simp at count
  | [] | [_] | [_, _] | [_, _, _, _, _] | [_, _, _, _, _, _, _] => rfl
  | _ :: _ :: _ :: _ :: _ :: _ :: _ :: _ :: _ :: _ => rfl

theorem Rgb.eq_of_toNat {d : Rgb} (red : c.red.toNat = d.red.toNat)
    (green : c.green.toNat = d.green.toNat) (blue : c.blue.toNat = d.blue.toNat) : c = d := by
  cases c
  cases d
  rw [Rgb.mk.injEq]
  exact ⟨UInt8.toNat_inj.mp red, UInt8.toNat_inj.mp green, UInt8.toNat_inj.mp blue⟩

theorem Denotes.unique {d : Rgb} (first : Denotes digits c) (second : Denotes digits d) : c = d := by
  cases first with
  | short red green blue few channels =>
    cases second with
    | short red' green' blue' few' channels' =>
      obtain rfl := Option.mem_unique red red'
      obtain rfl := Option.mem_unique green green'
      obtain rfl := Option.mem_unique blue blue'
      exact Rgb.eq_of_toNat (by omega) (by omega) (by omega)
    | long => simp at few
  | long red green blue channels =>
    cases second with
    | short red' green' blue' few' channels' => simp at few'
    | long red' green' blue' channels' =>
      obtain rfl := Option.mem_unique red.1 red'.1
      obtain rfl := Option.mem_unique red.2 red'.2
      obtain rfl := Option.mem_unique green.1 green'.1
      obtain rfl := Option.mem_unique green.2 green'.2
      obtain rfl := Option.mem_unique blue.1 blue'.1
      obtain rfl := Option.mem_unique blue.2 blue'.2
      exact Rgb.eq_of_toNat (by omega) (by omega) (by omega)

/-! ## The reader -/

theorem hexToRgb_of_writesDigits (written : WritesDigits text digits) :
    hexToRgb text = ofHexDigits? digits := by
  obtain ⟨found, hex, -⟩ := writesDigits_iff.mp written
  have all : digits.all isHexDigit = true := List.all_eq_true.mpr hex
  simp only [hexToRgb, found, all, if_true]

theorem isSome_hexToRgb_iff : (hexToRgb text).isSome = true ↔ ∃ digits, WritesDigits text digits := by
  constructor
  · intro read
    rw [hexToRgb] at read
    split at read
    · next all =>
      refine ⟨_, writesDigits_iff.mpr ⟨rfl, List.all_eq_true.mp all, ?_⟩⟩
      by_contra count
      rw [ofHexDigits?_of_count count] at read
      cases read
    · cases read
  · rintro ⟨digits, written⟩
    obtain ⟨-, hex, count⟩ := writesDigits_iff.mp written
    obtain ⟨c, read, -⟩ := exists_ofHexDigits? hex count
    rw [hexToRgb_of_writesDigits written, read]
    rfl

/-- A written color is read as what its digits stand for. -/
theorem hexToRgb_eq_some_iff (written : WritesDigits text digits) :
    hexToRgb text = some c ↔ Denotes digits c := by
  obtain ⟨-, hex, count⟩ := writesDigits_iff.mp written
  obtain ⟨d, read, denotes⟩ := exists_ofHexDigits? hex count
  rw [hexToRgb_of_writesDigits written, read, Option.some.injEq]
  constructor
  · rintro rfl
    exact denotes
  · exact denotes.unique

/-- Texts whose digits stand for the same channels are read alike. -/
theorem hexToRgb_congr {ds es : List Char} (written : WritesDigits text ds)
    (again : WritesDigits other es) (same : ∀ c, Denotes ds c → Denotes es c) :
    hexToRgb text = hexToRgb other := by
  obtain ⟨-, hex, count⟩ := writesDigits_iff.mp written
  obtain ⟨c, -, denotes⟩ := exists_ofHexDigits? hex count
  rw [(hexToRgb_eq_some_iff written).mpr denotes, (hexToRgb_eq_some_iff again).mpr (same c denotes)]

/-- Digits behind those of the channels change nothing. -/
theorem Denotes.append {alpha : List Char} (channels : digits.length = 3 ∨ digits.length = 6)
    (few : alpha.length ≤ 2) (count : (digits ++ alpha).length ∈ [3, 4, 6, 8]) (denotes : Denotes digits c) :
    Denotes (digits ++ alpha) c := by
  cases denotes with
  | @short r g b x y z beta _ red green blue short values =>
    have single : (beta ++ alpha).length ≤ 1 := by
      simp only [List.cons_append, List.length_cons, List.length_append, List.mem_cons,
        List.not_mem_nil, or_false] at *
      omega
    exact .short red green blue single values
  | long red green blue values => exact .long red green blue values

/-- A digit stands for two of its kind. -/
theorem Denotes.doubled (short : digits.length ≤ 4) (denotes : Denotes digits c) :
    Denotes (digits.flatMap fun d => [d, d]) c := by
  cases denotes with
  | @short r g b x y z alpha _ red green blue few values =>
    refine .long ⟨red, red⟩ ⟨green, green⟩ ⟨blue, blue⟩ ?_
    omega
  | long red green blue values =>
    simp only [List.length_cons] at short
    omega

/-! ## Case -/

theorem sign_lowerChar (a : Char) : (lowerChar a == '#') = (a == '#') :=
  lowerChar_induction (P := fun a b => (b == '#') = (a == '#')) (by decide +kernel) (fun _ => rfl) a

theorem hexDigits_lower (cs : List Char) : hexDigits (lower cs) = lower (hexDigits cs) := by
  have blanks : isBlank ∘ lowerChar = isBlank := funext isBlank_lowerChar
  have signs : (· == '#') ∘ lowerChar = (· == '#') := funext sign_lowerChar
  rw [hexDigits, lower, trim_map, blanks, List.dropWhile_map, signs, lower, hexDigits]

theorem ofHexDigits?_lower (ds : List Char) : ofHexDigits? (lower ds) = ofHexDigits? ds := by
  have pair (a b : Char) : hexPair? (lowerChar a) (lowerChar b) = hexPair? a b := by
    rw [hexPair?, hexValue?_lowerChar, hexValue?_lowerChar, hexPair?]
  match ds with
  | [_, _, _] | [_, _, _, _] | [_, _, _, _, _, _] | [_, _, _, _, _, _, _, _] =>
    simp [lower, ofHexDigits?, pair]
  | [] | [_] | [_, _] | [_, _, _, _, _] | [_, _, _, _, _, _, _] => rfl
  | _ :: _ :: _ :: _ :: _ :: _ :: _ :: _ :: _ :: _ => rfl

/-- Case does not matter, whether or not a text is a color. -/
theorem hexToRgb_eq_of_lower (same : lower text.toList = lower other.toList) :
    hexToRgb text = hexToRgb other := by
  have folded (text : String) : hexToRgb text =
      if (hexDigits (lower text.toList)).all isHexDigit then ofHexDigits? (hexDigits (lower text.toList))
      else none := by
    have digits : isHexDigit ∘ lowerChar = isHexDigit := funext isHexDigit_lowerChar
    rw [hexDigits_lower, ofHexDigits?_lower, lower, List.all_map, digits]
    rfl
  rw [folded, same, ← folded]

/-! ## Literals and single precision -/

theorem byteDigit?_eq (a : Char) : byteDigit? a = hexPair? a a := by
  rw [byteDigit?, hexPair?]
  cases value : hexValue? a with
  | none => rfl
  | some v =>
    have sum : 17 * v = 16 * v + v := by omega
    rw [Option.map_some, sum]

theorem bytePair?_eq {a b : Char} (digit : isHexDigit a = true) : bytePair? a b = hexPair? a b := by
  have noPlus : (a == '+') = false := by
    rw [beq_eq_false_iff_ne]
    rintro rfl
    cases digit
  rw [bytePair?, hexPair?, noPlus]
  rfl

/-- Where a literal is read, the digits are read as its color. -/
theorem ofHexDigits?_of_hexLiteral? {whole : Rgba} (hex : ∀ c ∈ digits, isHexDigit c = true)
    (read : hexLiteral? digits = some whole) : ofHexDigits? digits = some whole.color := by
  match digits with
  | [r, g, b] =>
    simp only [hexLiteral?, byteDigit?_eq, Option.bind_eq_bind, Option.bind_eq_some_iff,
      Option.some.injEq] at read
    obtain ⟨x, red, y, green, z, blue, rfl⟩ := read
    simp [ofHexDigits?, red, green, blue]
  | [r, g, b, a] =>
    simp only [hexLiteral?, byteDigit?_eq, Option.bind_eq_bind, Option.bind_eq_some_iff,
      Option.some.injEq] at read
    obtain ⟨x, red, y, green, z, blue, alpha, -, rfl⟩ := read
    simp [ofHexDigits?, red, green, blue]
  | [r, r', g, g', b, b'] =>
    simp only [List.forall_mem_cons] at hex
    simp only [hexLiteral?, bytePair?_eq hex.1, bytePair?_eq hex.2.2.1, bytePair?_eq hex.2.2.2.2.1,
      Option.bind_eq_bind, Option.bind_eq_some_iff, Option.some.injEq] at read
    obtain ⟨x, red, y, green, z, blue, rfl⟩ := read
    simp [ofHexDigits?, red, green, blue]
  | [r, r', g, g', b, b', a, a'] =>
    simp only [List.forall_mem_cons] at hex
    simp only [hexLiteral?, bytePair?_eq hex.1, bytePair?_eq hex.2.2.1, bytePair?_eq hex.2.2.2.2.1,
      Option.bind_eq_bind, Option.bind_eq_some_iff, Option.some.injEq] at read
    obtain ⟨x, red, y, green, z, blue, alpha, -, rfl⟩ := read
    simp [ofHexDigits?, red, green, blue]
  | [] | [_] | [_, _] | [_, _, _, _, _] | [_, _, _, _, _, _, _] => cases read
  | _ :: _ :: _ :: _ :: _ :: _ :: _ :: _ :: _ :: _ => cases read

/-- A literal of digits is the color that the digits stand for. -/
theorem exists_hexLiteral? (hex : ∀ c ∈ digits, isHexDigit c = true)
    (count : digits.length ∈ [3, 4, 6, 8]) :
    ∃ whole, hexLiteral? digits = some whole ∧ ofHexDigits? digits = some whole.color := by
  have read : (hexLiteral? digits).isSome = true := by
    apply isSome_hexLiteral?_iff.mpr
    simp only [List.mem_cons, List.not_mem_nil, or_false] at count
    rcases count with short | short | long | long
    · exact Or.inl ⟨Or.inl short, hex⟩
    · exact Or.inl ⟨Or.inr short, hex⟩
    · exact Or.inr ⟨Or.inl long, pairsUp_of_digits hex (by omega)⟩
    · exact Or.inr ⟨Or.inr long, pairsUp_of_digits hex (by omega)⟩
  obtain ⟨whole, read⟩ := Option.isSome_iff_exists.mp read
  exact ⟨whole, read, ofHexDigits?_of_hexLiteral? hex read⟩

/-- No byte is lost between zero and one in single precision. -/
theorem toRgb_toChannels_float (c : Rgb) : (c.toChannels : Channels Float32).toRgb = c := by
  have byte : ∀ n < 256, channelByte ((Scalar.ofByte (UInt8.ofNat n) : Float32) / 255) = UInt8.ofNat n := by
    decide +kernel
  have channel (b : UInt8) : channelByte ((Scalar.ofByte b : Float32) / 255) = b := by
    have same := byte b.toNat b.toNat_lt
    rwa [UInt8.ofNat_toNat] at same
  rw [Rgb.toChannels, Channels.toRgb, channel, channel, channel]

/-- Behind a sign nothing but digits is looked for. -/
theorem literal?_of_sign (hex : ∀ c ∈ digits, isHexDigit c = true) :
    literal? (String.ofList ('#' :: digits)) = hexLiteral? digits := by
  have sign : ∀ c ∈ ['#'], c = '#' := fun c => List.mem_singleton.mp
  have trimmed : trim isBlank ('#' :: digits) = '#' :: digits :=
    trim_eq_self (trimmed_signs_append sign hex)
  have noName : sameIgnoringCase ('#' :: digits) "transparent".toList = false := by
    rw [sameIgnoringCase, lower, List.map_cons, beq_eq_false_iff_ne]
    intro same
    exact absurd (List.cons.inj same).1 (by decide)
  unfold literal?
  simp only [String.toList_ofList, trimmed, noName, Bool.false_eq_true, if_false, List.head?_cons,
    beq_self_eq_true, if_true, List.drop_succ_cons, List.drop_zero]

/-! ## Writing -/

theorem hexPair?_hexChar (b : UInt8) :
    hexPair? (hexChar (b.toNat / 16)) (hexChar (b.toNat % 16)) = some b := by
  have small := b.toNat_lt
  have whole : 16 * (b.toNat / 16) + b.toNat % 16 = b.toNat := by omega
  rw [hexPair?, hexValue?_hexChar _ (by omega), hexValue?_hexChar _ (by omega)]
  exact congrArg some (by rw [whole, UInt8.ofNat_toNat])

/-- A color is written by a sign and six digits, which are read as the color. -/
theorem exists_hex (c : Rgb) : ∃ ds, c.hex.toList = '#' :: ds ∧ (∀ a ∈ ds, isHexDigit a = true) ∧
    ds.length = 6 ∧ ofHexDigits? ds = some c := by
  have digit (n : Nat) (small : n < 16) : isHexDigit (hexChar n) = true := by
    rw [isHexDigit, hexValue?_hexChar n small]
    rfl
  have pair (b : UInt8) : ∀ a ∈ [hexChar (b.toNat / 16), hexChar (b.toNat % 16)], isHexDigit a = true := by
    have small := b.toNat_lt
    simp only [List.forall_mem_cons]
    exact ⟨digit _ (by omega), digit _ (by omega), List.forall_mem_nil _⟩
  refine ⟨_, String.toList_ofList, ?_, rfl, ?_⟩
  · exact List.forall_mem_append.mpr
      ⟨List.forall_mem_append.mpr ⟨pair c.red, pair c.green⟩, pair c.blue⟩
  · exact ofHexDigits?_long (Or.inl rfl) (hexPair?_hexChar c.red) (hexPair?_hexChar c.green)
      (hexPair?_hexChar c.blue)

/-- The written color is read back in either case, with its sign or without. -/
theorem hexToRgb_of_hex
    (written : lower text.toList = lower c.hex.toList ∨ '#' :: lower text.toList = lower c.hex.toList) :
    hexToRgb text = some c := by
  obtain ⟨ds, spelled, hex, six, read⟩ := exists_hex c
  have count : ds.length ∈ [3, 4, 6, 8] := by simp [six]
  rcases written with signed | unsigned
  · have whole : c.hex.toList = ['#'] ++ ds := spelled
    have digits : WritesDigits c.hex ds := .ofSigns whole (fun c => List.mem_singleton.mp) hex count
    rw [hexToRgb_eq_of_lower signed, hexToRgb_of_writesDigits digits, read]
  · have whole : (String.ofList ds).toList = [] ++ ds := String.toList_ofList
    have digits : WritesDigits (String.ofList ds) ds :=
      .ofSigns whole (List.forall_mem_nil _) hex count
    have same : lower text.toList = lower (String.ofList ds).toList := by
      rw [spelled, lower, lower, List.map_cons] at unsigned
      rw [String.toList_ofList]
      exact (List.cons.inj unsigned).2
    rw [hexToRgb_eq_of_lower same, hexToRgb_of_writesDigits digits, read]

/-- A text is a hexadecimal color exactly if it is blanks, signs, three, four, six or eight digits, and
blanks. It is read as what the digits stand for, so neither blanks nor signs, neither case nor digits of an
opacity matter, and a short form is its long form with each digit doubled. The literal of the same digits
is the same color through channels in single precision, and every color is read back as it is written. -/
theorem hex_color_is_read_by_digits :
    (∀ text, (hexToRgb text).isSome = true ↔ ∃ digits, WritesDigits text digits) ∧
    (∀ text digits c, WritesDigits text digits → (hexToRgb text = some c ↔ Denotes digits c)) ∧
    (∀ text other, lower text.toList = lower other.toList → hexToRgb text = hexToRgb other) ∧
    (∀ text other digits, WritesDigits text digits → WritesDigits other digits →
      hexToRgb text = hexToRgb other) ∧
    (∀ text other digits alpha, digits.length = 3 ∨ digits.length = 6 → alpha.length ≤ 2 →
      WritesDigits text digits → WritesDigits other (digits ++ alpha) →
      hexToRgb text = hexToRgb other) ∧
    (∀ text other digits, digits.length ≤ 4 → WritesDigits text digits →
      WritesDigits other (digits.flatMap fun d => [d, d]) → hexToRgb text = hexToRgb other) ∧
    (∀ text digits, WritesDigits text digits → ∃ whole : Rgba,
      literal? (String.ofList ('#' :: digits)) = some whole ∧
      hexToRgb text = some (whole.color.toChannels : Channels Float32).toRgb) ∧
    ∀ text c, lower text.toList = lower c.hex.toList ∨ '#' :: lower text.toList = lower c.hex.toList →
      hexToRgb text = some c := by
  refine ⟨fun _ => isSome_hexToRgb_iff, fun _ _ _ => hexToRgb_eq_some_iff, fun _ _ => hexToRgb_eq_of_lower,
    fun _ _ _ written again => hexToRgb_congr written again fun _ => id, ?opacity, ?doubled, ?literal,
    fun _ _ => hexToRgb_of_hex⟩
  case opacity =>
    intro text other digits alpha channels few written longer
    have count := (writesDigits_iff.mp longer).2.2
    exact hexToRgb_congr written longer fun c => Denotes.append channels few count
  case doubled =>
    intro text other digits short written longer
    exact hexToRgb_congr written longer fun c => Denotes.doubled short
  case literal =>
    intro text digits written
    obtain ⟨-, hex, count⟩ := writesDigits_iff.mp written
    obtain ⟨whole, literal, read⟩ := exists_hexLiteral? hex count
    refine ⟨whole, by rw [literal?_of_sign hex, literal], ?_⟩
    rw [hexToRgb_of_writesDigits written, read, toRgb_toChannels_float]

/-- A short form among blanks and signs, its long form, and that with an opacity are one color. -/
theorem hex_color_is_read_by_digits_with_signs :
    WritesDigits "\u2003##0aF\n" "0aF".toList ∧ WritesDigits "00aaFF" "00aaFF".toList ∧
    WritesDigits "00aaFF80" "00aaFF80".toList ∧
    hexToRgb "\u2003##0aF\n" = some ⟨0, 0xAA, 0xFF⟩ ∧
    hexToRgb "\u2003##0aF\n" = hexToRgb "00aaFF" ∧ hexToRgb "00aaFF" = hexToRgb "00aaFF80" ∧
    hexToRgb "00AAFF" = some ⟨0, 0xAA, 0xFF⟩ := by
  have written {text : String} {digits : List Char} (checked : hexDigits text.toList = digits ∧
      digits.all isHexDigit = true ∧ digits.length ∈ [3, 4, 6, 8]) : WritesDigits text digits :=
    writesDigits_iff.mpr ⟨checked.1, List.all_eq_true.mp checked.2.1, checked.2.2⟩
  have short : WritesDigits "\u2003##0aF\n" "0aF".toList := written (by decide +kernel)
  have long : WritesDigits "00aaFF" "00aaFF".toList := written (by decide +kernel)
  have longer : WritesDigits "00aaFF80" "00aaFF80".toList := written (by decide +kernel)
  have channels : Denotes ['0', 'a', 'F'] ⟨0, 0xAA, 0xFF⟩ :=
    .short (by decide : hexValue? '0' = some 0) (by decide : hexValue? 'a' = some 10)
      (by decide : hexValue? 'F' = some 15) (by decide) (by decide)
  obtain ⟨-, denoted, -, -, opacity, doubled, -, read⟩ := hex_color_is_read_by_digits
  exact ⟨short, long, longer, (denoted _ _ _ short).mpr channels,
    doubled _ _ _ (by decide) short long, opacity _ _ _ ['8', '0'] (by decide) (by decide) long longer,
    read "00AAFF" ⟨0, 0xAA, 0xFF⟩ (by decide +kernel)⟩

end UtilityCss.Color
