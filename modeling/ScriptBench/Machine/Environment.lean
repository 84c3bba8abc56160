import ScriptBench.Machine.Files

namespace ScriptBench.Machine

structure Environment where
  bindings : List (String × String)
  files : Files
  directory : String
deriving DecidableEq, Repr

namespace Environment

def lookup? (e : Environment) (name : String) : Option String := e.bindings.lookup name

def place (e : Environment) : Place := components e.directory

def readText (e : Environment) (path : String) : Except SystemError String :=
  e.files.readText e.place path

def tempDirectory (e : Environment) : String := (e.lookup? "TMPDIR").getD "/tmp"

end Environment

end ScriptBench.Machine
