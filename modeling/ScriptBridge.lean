import ScriptBridge.Config.Basic
import ScriptBridge.Config.Decode
import ScriptBridge.Decimal.Binary
import ScriptBridge.Decimal.Layout
import ScriptBridge.Decimal.Shortest
import ScriptBridge.Files
import ScriptBridge.Host.Basic
import ScriptBridge.Host.Classes
import ScriptBridge.Host.Error
import ScriptBridge.Host.Foreign
import ScriptBridge.Json.Reader
import ScriptBridge.Proofs.ArrayView
import ScriptBridge.Proofs.Boundary
import ScriptBridge.Proofs.ConfigDecoding
import ScriptBridge.Proofs.ConfigGrammar
import ScriptBridge.Proofs.ConfigValues
import ScriptBridge.Proofs.Crossing
import ScriptBridge.Proofs.ElementReads
import ScriptBridge.Proofs.Evaluation
import ScriptBridge.Proofs.ExactArith
import ScriptBridge.Proofs.ExactDouble
import ScriptBridge.Proofs.Exec
import ScriptBridge.Proofs.FirstReads
import ScriptBridge.Proofs.HostCalls
import ScriptBridge.Proofs.Identity
import ScriptBridge.Proofs.JoinedView
import ScriptBridge.Proofs.JsonGrammar
import ScriptBridge.Proofs.JsonLists
import ScriptBridge.Proofs.JsonReading
import ScriptBridge.Proofs.JsonScalars
import ScriptBridge.Proofs.JsonSkip
import ScriptBridge.Proofs.JsonStrings
import ScriptBridge.Proofs.LengthIndex
import ScriptBridge.Proofs.LineMethods
import ScriptBridge.Proofs.MovedSegment
import ScriptBridge.Proofs.OwnProperty
import ScriptBridge.Proofs.PointMethods
import ScriptBridge.Proofs.SegmentTest
import ScriptBridge.Proofs.Steps
import ScriptBridge.Proofs.Transparency
import ScriptBridge.Proofs.Utf16
import ScriptBridge.Script.Builtin
import ScriptBridge.Script.Builtins.Arrays
import ScriptBridge.Script.Builtins.Dispatch
import ScriptBridge.Script.Builtins.Json
import ScriptBridge.Script.Builtins.Numbers
import ScriptBridge.Script.Builtins.Objects
import ScriptBridge.Script.Builtins.Strings
import ScriptBridge.Script.Builtins.Support
import ScriptBridge.Script.Call
import ScriptBridge.Script.Compare
import ScriptBridge.Script.Convert
import ScriptBridge.Script.Display
import ScriptBridge.Script.Engine
import ScriptBridge.Script.Environment
import ScriptBridge.Script.Eval
import ScriptBridge.Script.Function
import ScriptBridge.Script.Hoist
import ScriptBridge.Script.Invoke
import ScriptBridge.Script.Iteration
import ScriptBridge.Script.Lexer
import ScriptBridge.Script.Machine
import ScriptBridge.Script.Numeric
import ScriptBridge.Script.Object
import ScriptBridge.Script.Operators
import ScriptBridge.Script.Parser
import ScriptBridge.Script.Realm
import ScriptBridge.Script.Setup
import ScriptBridge.Script.Syntax
import ScriptBridge.Script.Value
import ScriptBridge.Session.Answer
import ScriptBridge.Session.Request
import ScriptBridge.Session.Run
import ScriptBridge.Session.Step
import ScriptBridge.Text.Blank
import ScriptBridge.Text.Case
import ScriptBridge.Text.Units
import ScriptBridge.Wrapper.Array
import ScriptBridge.Wrapper.Basic
import ScriptBridge.Wrapper.Shapes
