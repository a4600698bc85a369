/-
Starting programs in a directory.

The programs are scripts and a choice of standard programs, in a small system of their own.  It is
one system among many in which a command line can be tried, and no statement about command lines
depends on it.
-/
import CodeOutline.Shell.Run

namespace CodeOutline.Shell

/-- The number of bytes that a program can be given without taking them. -/
def pipeCapacity : Nat := 65536

/-- How a program ended, from its last state. -/
def Session.finished (s : Session) : Finished where
  code := if s.flow = .killed then none else some (s.status % 256)
  output := s.collection 1
  errors := s.collection 2
  inputTaken := ((s.unread.lookup 0).getD []).length ≤ pipeCapacity

/-- The last state of a program that was started in a directory with the given files. -/
def launch (files : Files) (program : String) (args : List String) (input : List UInt8) :
    Except SystemError Session :=
  if (program :: args).any fun a => a.toList.any (·.toNat == 0) then .error .badName
  else
    match findProgram files (spellName program) (args.map spellName) with
    | .error e => .error e
    | .ok call =>
      let start : Session := { files, name := spellName program, unread := [(0, input)] }
      .ok (runInvocation patience call start).2

end CodeOutline.Shell
