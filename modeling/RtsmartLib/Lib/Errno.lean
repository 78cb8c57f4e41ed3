import Mathlib.Data.Int.Init

/-!
This module contains error numbers, which calls return negated.
-/

namespace Posix

abbrev Errno := { e : Int // 0 < e }

def enoent : Errno := ⟨2, by decide⟩
def eintr : Errno := ⟨4, by decide⟩
def eio : Errno := ⟨5, by decide⟩
def enxio : Errno := ⟨6, by decide⟩
def eagain : Errno := ⟨11, by decide⟩
def enomem : Errno := ⟨12, by decide⟩
def enodev : Errno := ⟨19, by decide⟩
def einval : Errno := ⟨22, by decide⟩
def enomsg : Errno := ⟨42, by decide⟩
def eproto : Errno := ⟨71, by decide⟩
def eoverflow : Errno := ⟨75, by decide⟩
def emsgsize : Errno := ⟨90, by decide⟩
def enotsup : Errno := ⟨95, by decide⟩
def etimedout : Errno := ⟨110, by decide⟩

theorem Errno.neg_lt (errno : Errno) : -(errno : Int) < 0 := by
  have := errno.property
  omega

end Posix
