import AddressMask.Bytes
import AddressMask.PrefixLength
import AddressMask.Numeral
import AddressMask.Address
import AddressMask.Text.Ranges
import AddressMask.Text.Unassigned
import AddressMask.Text.Extending
import AddressMask.Text.Printable
import AddressMask.Text.Quoted
import AddressMask.Decimal.Shortest
import AddressMask.Decimal.Layout
import AddressMask.DecodeError
import AddressMask.Log
import AddressMask.Mask.Basic
import AddressMask.Mask.Order
import AddressMask.Mask.RawBytes
import AddressMask.Mask.BinaryForm
import AddressMask.Mask.TextForm
import AddressMask.Mask.Exchange
import AddressMask.Source
import AddressMask.Session
import AddressMask.Frame
import AddressMask.Json.Value
import AddressMask.Json.Escape
import AddressMask.Json.Number
import AddressMask.Json.Reader
import AddressMask.Json.Writer
import AddressMask.Payload
import AddressMask.Mask.JsonForm
import AddressMask.Formats
import AddressMask.Document
import AddressMask.Proofs.FirstFailure
import AddressMask.Proofs.Numeral
import AddressMask.Proofs.TextGrammar
import AddressMask.Proofs.Constructible
import AddressMask.Proofs.TextRoundTrip
import AddressMask.Proofs.BinaryRoundTrip
import AddressMask.Proofs.LeadingOnes
import AddressMask.Proofs.PrefixScan
import AddressMask.Proofs.CountWrap
import AddressMask.Proofs.SameBits
import AddressMask.Proofs.RawRoundTrip
import AddressMask.Proofs.SessionHistory
import AddressMask.Proofs.FrameRoundTrip
import AddressMask.Proofs.FrameReading
import AddressMask.Proofs.RecordedWords
import AddressMask.Proofs.RefusalLog
import AddressMask.Proofs.JsonRoundTrip
import AddressMask.Proofs.UsualFormats
import AddressMask.Proofs.EntryPoints
import AddressMask.Proofs.ItemSequence
import AddressMask.Proofs.MaskOrder
import AddressMask.Proofs.LastPositions
import AddressMask.Proofs.JsonForms
import AddressMask.Proofs.WholeWord
import AddressMask.Proofs.CountOfOnes
import AddressMask.Proofs.OctetOrder
import AddressMask.Proofs.Views
import AddressMask.Proofs.PrintedForms
