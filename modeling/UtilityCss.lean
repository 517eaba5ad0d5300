import UtilityCss.Color.Alpha
import UtilityCss.Color.Channels
import UtilityCss.Color.Conversion
import UtilityCss.Color.Format
import UtilityCss.Color.Hex
import UtilityCss.Color.Literal
import UtilityCss.Color.Named
import UtilityCss.Color.Perceptual
import UtilityCss.Color.Scalar
import UtilityCss.Command.Arguments
import UtilityCss.Command.Error
import UtilityCss.Command.Run
import UtilityCss.Decimal.Binary
import UtilityCss.Decimal.Digits
import UtilityCss.Decimal.Reading
import UtilityCss.Decimal.Shortest
import UtilityCss.Decimal.Text
import UtilityCss.Json.Choice
import UtilityCss.Json.Document
import UtilityCss.Json.Fault
import UtilityCss.Json.Item
import UtilityCss.Json.Number
import UtilityCss.Json.Record
import UtilityCss.Json.Skip
import UtilityCss.Json.Text
import UtilityCss.Log
import UtilityCss.Main
import UtilityCss.OrderedMap
import UtilityCss.Palette.Error
import UtilityCss.Palette.Library
import UtilityCss.Palette.Ramp
import UtilityCss.Palette.Shade
import UtilityCss.Palette.Step
import UtilityCss.Preset.Basic
import UtilityCss.Preset.Config
import UtilityCss.Preset.ConfigText
import UtilityCss.Preset.Error
import UtilityCss.Preset.NamedValue
import UtilityCss.Preset.RootBlock
import UtilityCss.Preset.Shorthand
import UtilityCss.Preset.StaticClass
import UtilityCss.Text.Ascii
import UtilityCss.Text.Blank
import UtilityCss.Text.Hidden
import UtilityCss.Text.Quoted
import UtilityCss.Utility.Background
import UtilityCss.Utility.Builtin
import UtilityCss.Utility.ColorValue
import UtilityCss.Utility.Declaration
import UtilityCss.Utility.Entry
import UtilityCss.Utility.Layout
import UtilityCss.Utility.Line
import UtilityCss.Utility.Motion
import UtilityCss.Utility.Rule
import UtilityCss.Utility.Shadow
import UtilityCss.Utility.Spacing
import UtilityCss.Utility.Table
import UtilityCss.Utility.Token
import UtilityCss.Utility.Typography
import UtilityCss.Value.Kind
import UtilityCss.Value.Scale
import UtilityCss.Value.Template
import UtilityCss.Value.Token
import UtilityCss.Proofs.Log
import UtilityCss.Proofs.OrderedMap
import UtilityCss.Proofs.Palette.Ramp
import UtilityCss.Proofs.Palette.Modes
import UtilityCss.Proofs.Palette.Mirror
import UtilityCss.Proofs.Color.Format
import UtilityCss.Proofs.Palette.Library
import UtilityCss.Proofs.Preset.Basic
import UtilityCss.Proofs.Preset.NamedValue
import UtilityCss.Proofs.Preset.Shade
import UtilityCss.Proofs.Utility.Emission
import UtilityCss.Proofs.Utility.NormalForm
import UtilityCss.Proofs.Utility.Listing
import UtilityCss.Proofs.Decimal.Order
import UtilityCss.Proofs.Preset.Fault
import UtilityCss.Proofs.Preset.Meaning
import UtilityCss.Proofs.Color.Alpha
import UtilityCss.Proofs.Utility.KeyedColor
import UtilityCss.Proofs.Palette.Frame
import UtilityCss.Proofs.Palette.Decoding
import UtilityCss.Proofs.Preset.RootBlock
import UtilityCss.Proofs.Preset.Substitution
import UtilityCss.Proofs.Utility.Template
import UtilityCss.Proofs.Decimal.Plain
import UtilityCss.Proofs.Value.Number
import UtilityCss.Proofs.Utility.Cut
import UtilityCss.Proofs.Utility.Timing
import UtilityCss.Proofs.Utility.UnknownKey
import UtilityCss.Proofs.Color.Notation
import UtilityCss.Proofs.Color.Numeric
import UtilityCss.Proofs.Decimal.Finite
import UtilityCss.Proofs.Decimal.Written
import UtilityCss.Proofs.Value.Scale
import UtilityCss.Proofs.Palette.Fault
import UtilityCss.Proofs.Utility.Font
import UtilityCss.Proofs.Json.Map
import UtilityCss.Proofs.Palette.Colors
import UtilityCss.Proofs.Preset.Insertion
import UtilityCss.Proofs.Command.Arguments
import UtilityCss.Proofs.Color.Hex
import UtilityCss.Proofs.Palette.Exact
import UtilityCss.Proofs.Palette.Lightness
import UtilityCss.Proofs.Palette.Saturation
import UtilityCss.Proofs.Value.Case
import UtilityCss.Proofs.Utility.PropertyName
import UtilityCss.Proofs.Preset.CustomProperty
