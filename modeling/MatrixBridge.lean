import MatrixBridge.Bridge.Serve
import MatrixBridge.Gate.Operation
import MatrixBridge.Scenario.Host
import MatrixBridge.Scenario.Lua
import MatrixBridge.Scenario.Script
import MatrixBridge.Proofs.History
import MatrixBridge.Proofs.Run
import MatrixBridge.Proofs.Within
import MatrixBridge.Proofs.Boot
import MatrixBridge.Proofs.BootOnce
import MatrixBridge.Proofs.Readiness
import MatrixBridge.Proofs.Conversion
import MatrixBridge.Proofs.Failures
import MatrixBridge.Proofs.Matrix
import MatrixBridge.Proofs.Codec
import MatrixBridge.Proofs.TableGrammar
import MatrixBridge.Proofs.RoundTrip
import MatrixBridge.Proofs.Marshal
import MatrixBridge.Proofs.TableDepth
import MatrixBridge.Proofs.Routine
import MatrixBridge.Proofs.ModuleCall
import MatrixBridge.Proofs.StandardGlobals
import MatrixBridge.Proofs.Utf8
import MatrixBridge.Proofs.RaisedText
import MatrixBridge.Proofs.ModuleFailure
import MatrixBridge.Proofs.CallPaths
import MatrixBridge.Proofs.FaultChain
import MatrixBridge.Proofs.Globals
import MatrixBridge.Proofs.LuaCall
import MatrixBridge.Proofs.NumericCalls
import MatrixBridge.Proofs.Transport
import MatrixBridge.Proofs.Reports
import MatrixBridge.Proofs.Trace
import MatrixBridge.Proofs.TextKeys
import MatrixBridge.Proofs.Registration
import MatrixBridge.Proofs.ForwardedText
import MatrixBridge.Proofs.GlobalNames
import MatrixBridge.Proofs.ScriptCalls
import MatrixBridge.Proofs.ModuleArguments
import MatrixBridge.Proofs.GateOperations
import MatrixBridge.Proofs.MatrixBuilders
import MatrixBridge.Proofs.Assignment
import MatrixBridge.Proofs.MatrixFill
import MatrixBridge.Proofs.Numerals
import MatrixBridge.Proofs.MarshalRoundTrip
import MatrixBridge.Proofs.WrappedErrors
