/-!
# Where the configuration file is looked for

The file has a fixed name inside the directory for configuration files, which is the one that the
environment names, if it names one by an absolute path, and otherwise `.config` in the home
directory. Without a home directory the path keeps the tilde for it.
-/

set_option autoImplicit false

namespace RemoteDrive.Config

/-- `name` inside the directory `dir`. -/
def joinPath (dir name : String) : String :=
  if dir.toList.getLast? = some '/' then dir ++ name else dir ++ "/" ++ name

/-- The directory for configuration files. -/
def directory (named : Option String) (home : String) : String :=
  match named with
  | some dir => if dir.toList.head? = some '/' then dir else joinPath home ".config"
  | none => joinPath home ".config"

/-- The default path of the configuration file. -/
def defaultPath (named : Option String) (home : String) : String :=
  let home := if home = "" then "~" else home
  joinPath (joinPath (directory named home) "czkdrive") "config.yaml"

end RemoteDrive.Config
