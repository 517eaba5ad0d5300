import UtilityCss.Color.Alpha
import UtilityCss.Color.Literal
import UtilityCss.Proofs.Decimal.Text

/-!
# Written colors are colors with room for an opacity

Whatever the format and the channels, a written color is the name of the format, an opening
parenthesis, numbers with spaces and percent signs, and a closing parenthesis. So it is recognized as a
color, and an opacity goes before its last character.
-/
namespace UtilityCss.Color

open UtilityCss.Text UtilityCss.Decimal

/-- The characters between the parentheses of a written color. -/
def isChannelChar (c : Char) : Bool := isNumeralChar c || c == ' ' || c == '%'

theorem isChannelChar_of_isNumeralChar {c : Char} (h : isNumeralChar c = true) :
    isChannelChar c = true := by
  simp [isChannelChar, h]

theorem isChannelChar_of_mem_rounded {scale x : Float32} {c : Char}
    (h : c ∈ (rounded scale x).toList) : isChannelChar c = true := by
  unfold rounded at h
  dsimp only at h
  split at h
  · exact (List.mem_singleton.mp h) ▸ by decide
  · exact isChannelChar_of_isNumeralChar (isNumeralChar_of_mem_plain h)

theorem isChannelChar_of_mem_components {rgb : Rgb} {c : Char} (h : c ∈ rgb.components.toList) :
    isChannelChar c = true := by
  have digit {n : Nat} (hd : c ∈ digits n) : isChannelChar c = true :=
    isChannelChar_of_isNumeralChar (isNumeralChar_of_isDigit (isDigit_of_mem_digits hd))
  have space (hs : c ∈ " ".toList) : isChannelChar c = true :=
    (List.mem_singleton.mp hs) ▸ by decide
  simp only [Rgb.components, String.toList_append, String.toList_ofList, List.mem_append] at h
  rcases h with (((h | h) | h) | h) | h
  · exact digit h
  · exact space h
  · exact digit h
  · exact space h
  · exact digit h

/-- The shape of a written color: nothing between its parentheses is a slash or a separator. -/
theorem exists_toList_wrap (format : Format) (c : Rgb) :
    ∃ arguments : List Char, (∀ a ∈ arguments, isChannelChar a = true) ∧
      (format.wrap c).toList = format.name.toList ++ '(' :: arguments ++ [')'] := by
  have space {a : Char} (ha : a ∈ " ".toList) : isChannelChar a = true :=
    (List.mem_singleton.mp ha) ▸ by decide
  have percent {a : Char} (ha : a ∈ "%".toList) : isChannelChar a = true :=
    (List.mem_singleton.mp ha) ▸ by decide
  have number {scale x : Float32} {a : Char} (ha : a ∈ (rounded scale x).toList) :
      isChannelChar a = true := isChannelChar_of_mem_rounded ha
  cases format with
  | rgb =>
    refine ⟨c.components.toList, fun a ha => isChannelChar_of_mem_components ha, ?_⟩
    simp [Format.wrap, Format.name]
  | hsl =>
    let h : Hsl Float32 := rgbToHsl c
    refine ⟨(rounded 10 h.hue ++ " " ++ rounded 10 h.saturation ++ "%" ++ " " ++
      rounded 10 h.lightness ++ "%").toList, ?_, ?_⟩
    · intro a ha
      simp only [String.toList_append, List.mem_append] at ha
      rcases ha with (((((ha | ha) | ha) | ha) | ha) | ha) | ha
      · exact number ha
      · exact space ha
      · exact number ha
      · exact percent ha
      · exact space ha
      · exact number ha
      · exact percent ha
    · simp [Format.wrap, Format.name, h]
  | oklch =>
    let h := (c.toChannels : Channels Float32).toOklab.toOklch
    refine ⟨(rounded 10 (h.lightness * 100) ++ "%" ++ " " ++ rounded 1000 h.chroma ++ " " ++
      rounded 10 h.hue).toList, ?_, ?_⟩
    · intro a ha
      simp only [String.toList_append, List.mem_append] at ha
      rcases ha with ((((ha | ha) | ha) | ha) | ha) | ha
      · exact number ha
      · exact percent ha
      · exact space ha
      · exact number ha
      · exact space ha
      · exact number ha
    · simp [Format.wrap, Format.name, h]

theorem getLast?_wrap (format : Format) (c : Rgb) : (format.wrap c).toList.getLast? = some ')' := by
  obtain ⟨arguments, _, written⟩ := exists_toList_wrap format c
  rw [written, List.getLast?_concat]

theorem isColor_wrap (format : Format) (c : Rgb) : isColor (format.wrap c) = true := by
  obtain ⟨arguments, _, written⟩ := exists_toList_wrap format c
  have opening : ((format.name.toList ++ ['(']) ++ (arguments ++ [')'])) = (format.wrap c).toList := by
    rw [written]
    simp
  have notHex : (format.wrap c).toList.all isHexDigit = false := by
    rw [List.all_eq_false]
    exact ⟨')', by simp [written], by decide⟩
  have folded : lower (format.wrap c).toList =
      (format.name.toList ++ ['(']) ++ (lower arguments ++ [')']) := by
    rw [← opening, lower_append, lower_append arguments]
    cases format <;> rfl
  have function : colorFunctions.any
      (fun f => f.toList.isPrefixOf (lower (format.wrap c).toList)) = true := by
    rw [List.any_eq_true]
    refine ⟨format.name ++ "(", ?_, ?_⟩
    · cases format <;> decide
    · rw [folded, List.isPrefixOf_iff_prefix, String.toList_append]
      exact List.prefix_append _ _
  have closing : (lower (format.wrap c).toList).getLast? = some ')' := by
    rw [folded, ← List.append_assoc, List.getLast?_concat]
  simp [isColor, notHex, function, closing]

theorem acceptsAlpha_wrap (format : Format) (c : Rgb) :
    format.acceptsAlpha (format.wrap c) = true := by
  obtain ⟨arguments, plain, written⟩ := exists_toList_wrap format c
  have free : '/' ∉ (format.wrap c).toList := by
    rw [written]
    intro slash
    have inside : '/' ∈ arguments := by
      cases format <;> simpa [Format.name] using slash
    exact absurd (plain '/' inside) (by decide)
  have opening : format.name.toList <+: (format.wrap c).toList := by
    rw [written, List.append_assoc]
    exact List.prefix_append _ _
  simp [Format.acceptsAlpha, List.isPrefixOf_iff_prefix.mpr opening, getLast?_wrap, free]

/-- An opacity goes before the closing parenthesis; without a unit it is a percentage. -/
theorem exists_composeAlpha_wrap (format : Format) (c : Rgb) {alpha : String} (unit : String)
    (present : alpha ≠ "") :
    ∃ arguments : String, format.wrap c = format.name ++ "(" ++ arguments ++ ")" ∧
      composeAlpha (format.wrap c) alpha unit format =
        format.name ++ "(" ++ arguments ++ " / " ++ alpha ++ (if unit = "" then "%" else unit) ++
          ")" := by
  obtain ⟨arguments, _, written⟩ := exists_toList_wrap format c
  have noKeyword : format.wrap c ≠ currentKeyword := by
    intro same
    have last := getLast?_wrap format c
    rw [same] at last
    exact absurd last (by decide)
  refine ⟨String.ofList arguments, ?_, ?_⟩
  · rw [← String.toList_inj, written]
    simp
  · rw [composeAlpha, if_neg (by simpa using noKeyword), acceptsAlpha_wrap,
      if_neg (by simpa using present), written, List.dropLast_concat, ← String.toList_inj]
    simp

theorem notMem_separator_wrap (format : Format) (c : Rgb) : ';' ∉ (format.wrap c).toList := by
  obtain ⟨arguments, plain, written⟩ := exists_toList_wrap format c
  rw [written]
  intro separator
  have inside : ';' ∈ arguments := by
    cases format <;> simpa [Format.name] using separator
  exact absurd (plain ';' inside) (by decide)

/-- What starts with the name of a format and ends with a parenthesis is trimmed. -/
theorem trimmed_of_format (format : Format) (body : String) :
    Trimmed isCssBlank (format.name ++ body ++ ")").toList := by
  constructor
  · cases format <;> simp [Format.name, isCssBlank]
  · simp [isCssBlank]

end UtilityCss.Color
