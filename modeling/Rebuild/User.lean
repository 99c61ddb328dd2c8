/-!
# Users

The users of the system, with their numbers, groups and home directories. All programs are run by the first of them.
-/

namespace Rebuild

/-- A user of the system. -/
structure User where
  name : String
  number : Nat
  group : String
  groupNumber : Nat
  home : String
deriving DecidableEq, Repr

namespace User

/-- All users. -/
def all : List User :=
  [⟨"root", 0, "root", 0, "/root"⟩, ⟨"daemon", 1, "daemon", 1, "/usr/sbin"⟩, ⟨"bin", 2, "bin", 2, "/bin"⟩,
   ⟨"sys", 3, "sys", 3, "/dev"⟩, ⟨"sync", 4, "nogroup", 65534, "/bin"⟩, ⟨"games", 5, "games", 60, "/usr/games"⟩,
   ⟨"man", 6, "man", 12, "/var/cache/man"⟩, ⟨"lp", 7, "lp", 7, "/var/spool/lpd"⟩, ⟨"mail", 8, "mail", 8, "/var/mail"⟩,
   ⟨"news", 9, "news", 9, "/var/spool/news"⟩, ⟨"uucp", 10, "uucp", 10, "/var/spool/uucp"⟩,
   ⟨"proxy", 13, "proxy", 13, "/bin"⟩, ⟨"www-data", 33, "www-data", 33, "/var/www"⟩,
   ⟨"backup", 34, "backup", 34, "/var/backups"⟩, ⟨"list", 38, "list", 38, "/var/list"⟩,
   ⟨"irc", 39, "irc", 39, "/run/ircd"⟩, ⟨"_apt", 42, "nogroup", 65534, "/nonexistent"⟩,
   ⟨"nobody", 65534, "nogroup", 65534, "/nonexistent"⟩]

/-- The user with a name. -/
def named? (name : String) : Option User :=
  all.find? (·.name == name)

/-- The user with a name, or with a number as a text. -/
def ofText? (text : String) : Option User :=
  match named? text with
  | some user => some user
  | none => all.find? fun user => toString user.number == text

end User

end Rebuild
