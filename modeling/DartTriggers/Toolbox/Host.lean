import DartTriggers.Toolbox.Process
/-!
The files that are there besides the tree: the directories of the system and what stands in them.
They can be seen and run, but not changed.
-/

namespace DartTriggers.Toolbox.Host

/-- What stands at a path of the system. -/
inductive Kind where
  | directory
  | device
  | plainFile
  | program (name : String)
deriving DecidableEq, Repr

/-- The directories that are there. -/
def directories : List String :=
  ["/", "/bin", "/boot", "/dev", "/dev/pts", "/dev/shm", "/etc", "/home", "/lib", "/lib64",
   "/media", "/mnt", "/opt", "/proc", "/root", "/run", "/sbin", "/srv", "/sys", "/tmp", "/usr",
   "/usr/bin", "/usr/games", "/usr/include", "/usr/lib", "/usr/local", "/usr/local/bin",
   "/usr/local/lib", "/usr/local/sbin", "/usr/sbin", "/usr/share", "/usr/src", "/var", "/var/lib",
   "/var/log", "/var/tmp"]

def devices : List String :=
  ["/dev/full", "/dev/null", "/dev/random", "/dev/stderr", "/dev/stdin", "/dev/stdout",
   "/dev/tty", "/dev/urandom", "/dev/zero"]

def plainFiles : List String :=
  ["/etc/group", "/etc/hostname", "/etc/hosts", "/etc/passwd", "/etc/shadow", "/proc/cpuinfo",
   "/proc/meminfo", "/proc/version"]

/-- The directories that programs stand in. -/
def programDirectories : List String := ["/usr/bin/", "/bin/"]

/-- An absolute path without idle parts and dots. -/
def normalized (p : Path) : String :=
  let parts := (Path.split p.bytes).foldl (fun parts part =>
    if Path.isIdle part then parts
    else if part = Path.dotDot then parts.drop 1
    else part :: parts) []
  "/" ++ "/".intercalate (parts.reverse.map Bytes.toOctets)

/-- What stands at a path, given the names of the programs. -/
def kind? (programs : List String) (p : Path) : Option Kind :=
  let name := normalized p
  if directories.contains name then some .directory
  else if p.bytes.getLast? = some Path.slash then none
  else if devices.contains name then some .device
  else if plainFiles.contains name then some .plainFile
  else
    match programDirectories.find? fun dir => dir.isPrefixOf name with
    | none => none
    | some dir =>
        let base := (name.drop dir.length).toString
        if programs.contains base then some (.program base) else none

end DartTriggers.Toolbox.Host
