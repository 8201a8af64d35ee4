import Relift.Json.Reader
import Relift.Json.Printer
import Relift.Settings.Resolve
import Relift.Tool.Process
import Relift.Run.Basic
import Relift.Machine.Basic
import Relift.Rehearsal
import Relift.CommandLine.Program
import Relift.Main
import Relift.Proofs.Activity
import Relift.Proofs.Text
import Relift.Proofs.Utf8
import Relift.Proofs.Ordered
import Relift.Proofs.Json
import Relift.Proofs.Interchange
import Relift.Proofs.Correlation
import Relift.Proofs.Host
import Relift.Proofs.FileTree
import Relift.Proofs.Machine
import Relift.Proofs.Routes
import Relift.Proofs.SymbolMap
import Relift.Proofs.SymbolChain
import Relift.Proofs.Settings
import Relift.Proofs.Run.Stages
import Relift.Proofs.Run.Trace
import Relift.Proofs.Run.Recording
import Relift.Proofs.Run.Answers
import Relift.Proofs.Run.Dataflow
import Relift.Proofs.Run.Products
import Relift.Proofs.Run.Processes
import Relift.Proofs.Run.AnalyzerPaths
import Relift.Proofs.Run.Tidiness
import Relift.Proofs.CommandLine.Preparation
import Relift.Proofs.CommandLine.Silence
import Relift.Proofs.Records
import Relift.Proofs.Collision
import Relift.Proofs.AddressFile
import Relift.Proofs.NameMapFile
import Relift.Proofs.CodeImage
import Relift.Proofs.SettingsLayers
import Relift.Proofs.BlockList
import Relift.Proofs.ExportSymbols
import Relift.Proofs.AddressRange
import Relift.Proofs.LineFile
import Relift.Proofs.Discards
import Relift.Proofs.BlockOrder
import Relift.Proofs.History
