import ContractAudit.Rule.AccessControl
import ContractAudit.Rule.Gas
import ContractAudit.Rule.Overflow
import ContractAudit.Rule.Reentrancy
import ContractAudit.Rule.SelfDestruct
import ContractAudit.Rule.Timestamp
import ContractAudit.Rule.TxOrigin
import ContractAudit.Rule.UncheckedCall

/-!
# The built-in analyzers

Each built-in analyzer has a key under which settings name it, and is made from the settings given for it.
-/

namespace ContractAudit

/-- The keys of the built-in analyzers. -/
inductive BuiltIn where
  | reentrancy
  | accessControl
  | overflow
  | gas
  | uncheckedCall
  | timestamp
  | txOrigin
  | selfDestruct
deriving DecidableEq, Repr

/-- Why an analyzer could not be made from its settings. -/
inductive SettingsFault where
  | takesNone (kind : String)
  | unexpected (kind key : String)
  | reserved (kind key : String)
  | keyNotText
deriving DecidableEq, Repr

def SettingsFault.message : SettingsFault → String
  | takesNone kind => kind ++ "() takes no arguments"
  | unexpected kind key =>
    kind ++ ".__init__() got an unexpected keyword argument '" ++ key ++ "'"
  | reserved kind key => kind ++ ".__init__() got multiple values for argument '" ++ key ++ "'"
  | keyNotText => "keywords must be strings"

/-- Settings by name, in the order in which they were given. -/
abbrev SettingsTable := List (Value × Value)

namespace BuiltIn

/-- All built-in analyzers in the order in which they run by default. -/
def all : List BuiltIn :=
  [reentrancy, accessControl, overflow, gas, uncheckedCall, timestamp, txOrigin, selfDestruct]

def label : BuiltIn → String
  | reentrancy => "reentrancy"
  | accessControl => "access_control"
  | overflow => "overflow"
  | gas => "gas"
  | uncheckedCall => "unchecked_call"
  | timestamp => "timestamp"
  | txOrigin => "tx_origin"
  | selfDestruct => "self_destruct"

def ofLabel? (label : String) : Option BuiltIn := all.find? (·.label == label)

def default : BuiltIn → Analyzer
  | reentrancy => Rule.Reentrancy.analyzer
  | accessControl => Rule.AccessControl.analyzer Rule.AccessControl.defaultLookahead
  | overflow => Rule.Overflow.analyzer
  | gas => Rule.Gas.analyzer
  | uncheckedCall => Rule.UncheckedCall.analyzer {}
  | timestamp => Rule.Timestamp.analyzer
  | txOrigin => Rule.TxOrigin.analyzer
  | selfDestruct => Rule.SelfDestruct.analyzer

/-- The settings that an analyzer accepts; none when it accepts no argument at all. -/
def accepted : BuiltIn → Option (List String)
  | accessControl => some ["lookahead"]
  | uncheckedCall => some ["lookahead", "lookback"]
  | gas => some []
  | _ => none

/-- Checks the names of settings in their order; the name of the receiver is reserved. -/
def checkNames (kind : String) (names : List String) : SettingsTable → Except SettingsFault Unit
  | [] => .ok ()
  | (.str key, _) :: rest =>
    if key = "self" then .error (.reserved kind key)
    else if names.contains key then checkNames kind names rest
    else .error (.unexpected kind key)
  | _ => .error .keyNotText

def isTextKey : Value × Value → Bool
  | (.str _, _) => true
  | _ => false

def checkSettings (key : BuiltIn) (settings : SettingsTable) : Except SettingsFault Unit :=
  match key.accepted with
  | none => if settings.isEmpty then .ok () else .error (.takesNone key.default.kind)
  | some names =>
    if settings.all isTextKey then checkNames key.default.kind names settings else .error .keyNotText

/-- The analyzer with the given windows and the defaults for the others. -/
def withWindows (key : BuiltIn) (settings : SettingsTable) : Analyzer :=
  match key with
  | accessControl =>
    Rule.AccessControl.analyzer ((Value.field? settings "lookahead").getD Rule.AccessControl.defaultLookahead)
  | uncheckedCall =>
    let windows : Rule.UncheckedCall.Windows := {}
    Rule.UncheckedCall.analyzer
      { lookahead := (Value.field? settings "lookahead").getD windows.lookahead
        lookback := (Value.field? settings "lookback").getD windows.lookback }
  | other => other.default

def make (key : BuiltIn) (settings : SettingsTable) : Except SettingsFault Analyzer := do
  key.checkSettings settings
  pure (key.withWindows settings)

end BuiltIn

end ContractAudit
