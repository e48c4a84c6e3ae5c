import BootSeal.Builder.Addition
import BootSeal.Builder.Basic
import BootSeal.Builder.Call
import BootSeal.Builder.Draft
import BootSeal.Builder.Error
import BootSeal.Builder.Event
import BootSeal.Builder.Source
import BootSeal.Builder.Write
import BootSeal.Bytes.Basic
import BootSeal.Bytes.Integer
import BootSeal.Checksum.Crc32
import BootSeal.Cipher.Aes
import BootSeal.Cipher.Cbc
import BootSeal.CommandLine.Action
import BootSeal.CommandLine.Dialogue
import BootSeal.CommandLine.Failure
import BootSeal.CommandLine.Option
import BootSeal.CommandLine.Request
import BootSeal.CommandLine.Run
import BootSeal.CommandLine.Usage
import BootSeal.Curve.Ecdsa
import BootSeal.Curve.Named
import BootSeal.Curve.Weierstrass
import BootSeal.Digest.Hmac
import BootSeal.Digest.Pbkdf2
import BootSeal.Digest.Sha256
import BootSeal.Digest.Sha384
import BootSeal.Encoding.Base64
import BootSeal.Encoding.Der
import BootSeal.Encoding.Pem
import BootSeal.Image.Basic
import BootSeal.Image.Descriptor
import BootSeal.Image.File
import BootSeal.Image.Header
import BootSeal.Image.Integrity
import BootSeal.Image.Table
import BootSeal.Image.Verify
import BootSeal.IntelHex.AddressMap
import BootSeal.IntelHex.Basic
import BootSeal.IntelHex.Error
import BootSeal.IntelHex.Record
import BootSeal.Key.Basic
import BootSeal.Key.Error
import BootSeal.Key.Export
import BootSeal.Key.File
import BootSeal.Key.Library
import BootSeal.Key.Listing
import BootSeal.Key.Load
import BootSeal.Key.Material
import BootSeal.Key.Protected
import BootSeal.Layout
import BootSeal.Main
import BootSeal.Proofs.Builder.Acceptance
import BootSeal.Proofs.Builder.Additions
import BootSeal.Proofs.Builder.Assembling
import BootSeal.Proofs.Builder.Closing
import BootSeal.Proofs.Builder.Composition
import BootSeal.Proofs.Builder.Faulty
import BootSeal.Proofs.Builder.Interleaving
import BootSeal.Proofs.Builder.Interrupted
import BootSeal.Proofs.Builder.Loading
import BootSeal.Proofs.Builder.Missized
import BootSeal.Proofs.Builder.Queue
import BootSeal.Proofs.Builder.Reachable
import BootSeal.Proofs.Builder.Rebuilding
import BootSeal.Proofs.Builder.Refusal
import BootSeal.Proofs.Builder.SignatureBlock
import BootSeal.Proofs.Builder.SignedAcceptance
import BootSeal.Proofs.Builder.Signing
import BootSeal.Proofs.Builder.Stopping
import BootSeal.Proofs.Builder.Truncation
import BootSeal.Proofs.Builder.Writing
import BootSeal.Proofs.Bytes.Field
import BootSeal.Proofs.Bytes.Slice
import BootSeal.Proofs.Checksum.Burst
import BootSeal.Proofs.CommandLine.Creation
import BootSeal.Proofs.CommandLine.Entries
import BootSeal.Proofs.CommandLine.IntegerWord
import BootSeal.Proofs.CommandLine.KeyUse
import BootSeal.Proofs.CommandLine.Line
import BootSeal.Proofs.CommandLine.PublicOutput
import BootSeal.Proofs.CommandLine.Unlocking
import BootSeal.Proofs.CommandLine.Untouched
import BootSeal.Proofs.CommandLine.Uses
import BootSeal.Proofs.CommandLine.Verification
import BootSeal.Proofs.Encoding.Base64
import BootSeal.Proofs.Encoding.Der
import BootSeal.Proofs.Encoding.Pem
import BootSeal.Proofs.Except
import BootSeal.Proofs.Image.Authenticity
import BootSeal.Proofs.Image.Binding
import BootSeal.Proofs.Image.Canonical
import BootSeal.Proofs.Image.CheckOrder
import BootSeal.Proofs.Image.Codec
import BootSeal.Proofs.Image.Contents
import BootSeal.Proofs.Image.Cutting
import BootSeal.Proofs.Image.Grammar
import BootSeal.Proofs.Image.HeaderRoundTrip
import BootSeal.Proofs.Image.Intact
import BootSeal.Proofs.Image.Reencoding
import BootSeal.Proofs.Image.Signed
import BootSeal.Proofs.Image.Slot
import BootSeal.Proofs.Image.Table
import BootSeal.Proofs.Image.TableRoundTrip
import BootSeal.Proofs.Image.Tampering
import BootSeal.Proofs.Image.Tiling
import BootSeal.Proofs.IntelHex.MaximalRun
import BootSeal.Proofs.IntelHex.Placement
import BootSeal.Proofs.IntelHex.Segment
import BootSeal.Proofs.Key.BlockContent
import BootSeal.Proofs.Key.Library
import BootSeal.Proofs.Key.Listing
import BootSeal.Proofs.Key.Material
import BootSeal.Proofs.Key.Passphrase
import BootSeal.Proofs.Key.PublicFile
import BootSeal.Proofs.Key.Signature
import BootSeal.Proofs.Key.SignatureCode
import BootSeal.Proofs.Layout.Placement
import BootSeal.Proofs.Layout.Planner
import BootSeal.Proofs.Report.ByteBlock
import BootSeal.Proofs.Report.Course
import BootSeal.Proofs.Report.DescriptorBlock
import BootSeal.Proofs.Report.Faithful
import BootSeal.Proofs.Report.Sections
import BootSeal.Proofs.Text.Ascii
import BootSeal.Proofs.Text.IntegerLiteral
import BootSeal.Proofs.Text.Magnitude
import BootSeal.Proofs.Text.Numeral
import BootSeal.Proofs.Text.Utf8
import BootSeal.Report.Course
import BootSeal.Report.Fields
import BootSeal.Report.File
import BootSeal.Report.Text
import BootSeal.Store
import BootSeal.Text.Blank
import BootSeal.Text.DecimalDigit
import BootSeal.Text.Hex
import BootSeal.Text.IntegerLiteral
import BootSeal.Text.Numeral
import BootSeal.Text.Pattern
import BootSeal.Text.Printable
import BootSeal.Text.Quoted
import BootSeal.Text.Utf8
import BootSeal.Yaml.Fold
import BootSeal.Yaml.Implicit
import BootSeal.Yaml.Outline
import BootSeal.Yaml.Style
