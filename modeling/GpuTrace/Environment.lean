import GpuTrace.Fault

/-!
# Environment variables

Three variables override settings. A variable whose value is not UTF-8 counts as
absent, and one that a process can not have is refused: no name or value holds a
NUL character, and a name is neither empty nor holds an equals sign.
-/

namespace GpuTrace

structure Environment where
  verbose : Option String
  intervals : Option String
  intervalDomain : Option String
  deriving DecidableEq

namespace Environment

def verboseName : String := "KERNTRACE_VERBOSE"

def intervalsName : String := "KERNTRACE_INTERVALS"

def intervalDomainName : String := "KERNTRACE_INTERVAL_DOMAIN"

def empty : Environment := ⟨none, none, none⟩

def check (name : String) (value : List UInt8) : Except Fault Unit :=
  if name.contains '\x00' || value.contains 0 then
    .error (.variableWithNul name value)
  else if name.isEmpty || name.contains '=' then .error (.variableName name value)
  else .ok ()

def ofVariables (entries : List (String × List UInt8)) : Except Fault Environment := do
  entries.forM fun v => check v.1 v.2
  let text? (name : String) : Option String := do
    String.fromUTF8? (← entries.lookup name).toByteArray
  return ⟨text? verboseName, text? intervalsName, text? intervalDomainName⟩

end Environment

end GpuTrace
