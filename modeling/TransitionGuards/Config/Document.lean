import TransitionGuards.Config
import TransitionGuards.Json.Decode

/-
  Settings in documents. Every setting may be left out; a key that is no
  setting is refused.
-/

namespace TransitionGuards

def BackendKind.names : List (String × BackendKind) := [("builtin", .builtin), ("z3", .z3)]

def decodeBackendKind : Decode BackendKind := decodeName BackendKind.names

def Precedence.name : Precedence → String
  | .legacy => "legacy"
  | .standard => "standard"

def Precedence.names : List (String × Precedence) := [("legacy", .legacy), ("standard", .standard)]

def decodePrecedence : Decode Precedence := decodeName Precedence.names

def Config.fields :=
  Fields.cons (.default "backend" decodeBackendKind Config.default.backend)
    (.cons (.default "precedence" decodePrecedence Config.default.precedence)
      (.cons (.default "strict" decodeBool Config.default.strict)
        (.cons (.default "timeout_ms" (decodeOption decodeUInt64) Config.default.timeoutMs)
          (.cons (.default "max_decisions" (decodeOption decodeUInt64) Config.default.maxDecisions) .nil))))

def decodeConfig : Decode Config := fun doc =>
  (decodeRecord "AnalyzerConfig" Config.fields true doc).map
    fun (backend, precedence, strict, timeoutMs, maxDecisions, _) =>
      ⟨backend, precedence, strict, timeoutMs, maxDecisions⟩

def Config.members (c : Config) : List (String × Json) :=
  [("backend", .string c.backend.name), ("precedence", .string c.precedence.name), ("strict", .bool c.strict),
    ("timeout_ms", .ofOption (fun n => .ofNat n.toNat) c.timeoutMs),
    ("max_decisions", .ofOption (fun n => .ofNat n.toNat) c.maxDecisions)]

def Config.toJson (c : Config) : Json := .object c.members

end TransitionGuards
