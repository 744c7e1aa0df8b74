import LensCalibration.Main
import LensCalibration.Session
import LensCalibration.Proofs.Json.Grammar
import LensCalibration.Proofs.Json.Leaves
import LensCalibration.Proofs.Json.Passing
import LensCalibration.Proofs.Json.Interpretation
import LensCalibration.Proofs.Json.Reading
import LensCalibration.Proofs.Json.Printing
import LensCalibration.Proofs.Decimal.Digits
import LensCalibration.Proofs.Decimal.Rounding
import LensCalibration.Proofs.Decimal.Doubles
import LensCalibration.Proofs.Decimal.Singles
import LensCalibration.Proofs.Json.Exchange
import LensCalibration.Proofs.Blob.Reload
import LensCalibration.Proofs.Blob.Acceptance
import LensCalibration.Proofs.Vendor.Selection
import LensCalibration.Proofs.Files.Contents
import LensCalibration.Proofs.Files.Paths
import LensCalibration.Proofs.Files.Writing
import LensCalibration.Proofs.Files.Blob
import LensCalibration.Proofs.Vendor.Reload
import LensCalibration.Proofs.Cameras.Intrinsics
import LensCalibration.Proofs.Session.Counts
import LensCalibration.Proofs.Json.Codes
import LensCalibration.Proofs.Cameras.Native
import LensCalibration.Proofs.Blob.Layout
import LensCalibration.Proofs.Blob.Positions
import LensCalibration.Proofs.Vendor.Lists
import LensCalibration.Proofs.Session.Files
import LensCalibration.Proofs.Vendor.Matching
import LensCalibration.Proofs.Vendor.Cameras
import LensCalibration.Proofs.CommandLine.Options
import LensCalibration.Proofs.CommandLine.Lines
import LensCalibration.Proofs.CommandLine.Program
import LensCalibration.Proofs.Vendor.Independence
import LensCalibration.Proofs.Cameras.Raw
import LensCalibration.Proofs.Vocabulary.Codes
import LensCalibration.Proofs.Vocabulary.Conversions
import LensCalibration.Proofs.Vocabulary.Names
import LensCalibration.Proofs.Vendor.Events
