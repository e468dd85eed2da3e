import DeviceQualifier.Main
import DeviceQualifier.Proofs.Locale.Spelled
import DeviceQualifier.Proofs.Descriptor.Numeral
import DeviceQualifier.Proofs.Descriptor.Reads
import DeviceQualifier.Proofs.Descriptor.Owner
import DeviceQualifier.Proofs.Descriptor.Scan
import DeviceQualifier.Proofs.Descriptor.Parse
import DeviceQualifier.Proofs.Config.Describable
import DeviceQualifier.Proofs.Descriptor.Invariant
import DeviceQualifier.Proofs.Descriptor.Image
import DeviceQualifier.Proofs.Wire.Describable
import DeviceQualifier.Proofs.Wire.Reload
import DeviceQualifier.Proofs.Wire.Canonical
import DeviceQualifier.Proofs.Locale.Form
import DeviceQualifier.Proofs.Locale.Rejoined
import DeviceQualifier.Proofs.Locale.Word
import DeviceQualifier.Proofs.Wire.Places
import DeviceQualifier.Proofs.Descriptor.Prefix
import DeviceQualifier.Proofs.Descriptor.Exchange
import DeviceQualifier.Proofs.Descriptor.Order
import DeviceQualifier.Proofs.Descriptor.Cursor
import DeviceQualifier.Proofs.Bits
import DeviceQualifier.Proofs.Descriptor.Holding
import DeviceQualifier.Proofs.Config.Shown
import DeviceQualifier.Proofs.Vectors.Verdict
import DeviceQualifier.Proofs.Vectors.Report
import DeviceQualifier.Proofs.Vectors.Agreement
import DeviceQualifier.Proofs.Wire.Extent
import DeviceQualifier.Proofs.Wire.Fit
import DeviceQualifier.Proofs.Descriptor.Number
import DeviceQualifier.Proofs.Descriptor.Wildcard
import DeviceQualifier.Proofs.Vectors.Condition
import DeviceQualifier.Proofs.Locale.Overlay
import DeviceQualifier.Proofs.Text.Numeral
import DeviceQualifier.Proofs.Config.Changes
import DeviceQualifier.Proofs.Config.Summary
import DeviceQualifier.Proofs.Descriptor.Rendering
import DeviceQualifier.Proofs.Command.Decode
import DeviceQualifier.Proofs.Config.History
import DeviceQualifier.Proofs.Wire.Code
import DeviceQualifier.Proofs.Descriptor.Spelling
import DeviceQualifier.Proofs.Config.Named
import DeviceQualifier.Value.Double
import DeviceQualifier.Proofs.Value.Escape
import DeviceQualifier.Proofs.Value.Double
import DeviceQualifier.Proofs.Value.Number
import DeviceQualifier.Proofs.Value.ReadBack
