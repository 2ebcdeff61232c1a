import LineCensus.Main
import LineCensus.Proofs.CommandLine.Sections
import LineCensus.Proofs.CommandLine.Tables
import LineCensus.Proofs.Files.Joined
import LineCensus.Proofs.Files.VersionControl
import LineCensus.Proofs.Files.Walked
import LineCensus.Proofs.Files.Written
import LineCensus.Proofs.Format.Json
import LineCensus.Proofs.Format.Table
import LineCensus.Proofs.Format.Xml
import LineCensus.Proofs.Language.Evidence
import LineCensus.Proofs.Language.Scripts
import LineCensus.Proofs.Line.ByteOrderMark
import LineCensus.Proofs.Line.CarriageReturns
import LineCensus.Proofs.Line.Cut
import LineCensus.Proofs.Line.Declaration
import LineCensus.Proofs.Line.Requests
import LineCensus.Proofs.Line.Toggling
import LineCensus.Proofs.Line.WholeText
import LineCensus.Proofs.Registry.Additions
import LineCensus.Proofs.Registry.Closers
import LineCensus.Proofs.Registry.Faults
import LineCensus.Proofs.Registry.Markers
import LineCensus.Proofs.Settings.Extensions
import LineCensus.Proofs.Survey.Directories
import LineCensus.Proofs.Survey.Included
import LineCensus.Proofs.Survey.Order
import LineCensus.Proofs.Survey.Tokens
import LineCensus.Proofs.Survey.Unknown
import LineCensus.Proofs.Survey.Workers
import LineCensus.Proofs.Totals.Program
import LineCensus.Proofs.Totals.Ranked
