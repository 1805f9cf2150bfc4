/-
**What every system has below its root.**

* `systemEntries` — directories, links, programs, devices and files that are always there.
* `users` — the users of a system and their directories.
-/

import SinglePath.Files.Entry

namespace SinglePath.Files

open Text (Bytes)

/-- The place that a path from the root, without its first slash, leads to. -/
def placeOf (path : String) : Place :=
  (Bytes.divide '/' (Bytes.ofText path)).filter (!·.isEmpty)

/-- The directories of a system. -/
def systemDirectories : List String :=
  ["", "usr", "usr/bin", "usr/sbin", "usr/lib", "usr/lib64", "usr/libexec", "usr/local", "usr/local/bin",
   "usr/local/sbin", "usr/local/lib", "usr/local/share", "usr/local/etc", "usr/local/include",
   "usr/local/src", "usr/share", "usr/share/doc", "usr/share/man", "usr/include", "usr/src", "usr/games",
   "etc", "etc/init.d", "etc/default", "etc/skel", "etc/opt", "dev", "dev/pts", "dev/shm", "dev/mqueue",
   "tmp", "var", "var/tmp", "var/log", "var/lib", "var/cache", "var/spool", "var/mail", "var/opt",
   "var/local", "var/backups", "run", "run/lock", "home", "root", "opt", "srv", "mnt", "media", "boot",
   "proc", "proc/sys", "proc/sys/kernel", "proc/sys/fs", "proc/sys/vm", "proc/sys/net", "proc/net", "sys",
   "sys/kernel", "sys/class", "sys/devices", "sys/fs", "sys/block", "sys/bus"]

/-- The links of a system and what they lead to. -/
def systemLinks : List (String × String) :=
  [("bin", "usr/bin"), ("sbin", "usr/sbin"), ("lib", "usr/lib"), ("lib64", "usr/lib64"), ("usr/bin/sh", "usr/bin/dash"),
   ("var/run", "run"), ("var/lock", "run/lock"), ("dev/fd", "proc/self/fd"),
   ("dev/stdin", "proc/self/fd/0"), ("dev/stdout", "proc/self/fd/1"), ("dev/stderr", "proc/self/fd/2"),
   ("dev/ptmx", "dev/pts/ptmx"), ("proc/mounts", "proc/self/mounts")]

/-- The names of programs that every system has. -/
def programNames : List String :=
  ["arch", "awk", "base64", "basename", "bash", "cat", "chgrp", "chmod", "chown", "cksum", "cmp", "comm",
   "cp", "cut", "date", "dd", "df", "diff", "dir", "dirname", "du", "echo", "egrep", "env", "expand", "expr",
   "factor", "false", "fgrep", "find", "fold", "getent", "grep", "groups", "gunzip", "gzip", "head",
   "hostname", "iconv", "id", "install", "join", "kill", "ld.so", "link", "ln", "locale", "login", "ls",
   "mawk", "md5sum", "mkdir", "mkfifo", "mknod", "mktemp", "more", "mount", "mv", "nice", "nl", "nohup",
   "nproc", "od", "paste", "perl", "pr", "printenv", "printf", "ps", "pwd", "readlink", "realpath", "rev",
   "rm", "rmdir", "sed", "seq", "sha256sum", "shuf", "sleep", "sort", "split", "stat", "stty", "su", "sum",
   "sync", "tac", "tail", "tar", "tee", "test", "timeout", "touch", "tr", "true", "truncate", "tsort",
   "tty", "umount", "uname", "unexpand", "uniq", "unlink", "users", "wc", "which", "who", "whoami", "xargs",
   "yes", "zcat"]

/-- The devices of a system. -/
def systemDevices : List (String × Device) :=
  [("dev/null", .nothing), ("dev/zero", .zeros), ("dev/full", .full), ("dev/random", .zeros),
   ("dev/urandom", .zeros), ("dev/tty", .terminal), ("dev/pts/ptmx", .terminal)]

/-- The users of a system, each with number, group, full name, directory and shell. -/
def userLines : List String :=
  ["root:x:0:0:root:/root:/bin/bash",
   "daemon:x:1:1:daemon:/usr/sbin:/usr/sbin/nologin",
   "bin:x:2:2:bin:/bin:/usr/sbin/nologin",
   "sys:x:3:3:sys:/dev:/usr/sbin/nologin",
   "sync:x:4:65534:sync:/bin:/bin/sync",
   "games:x:5:60:games:/usr/games:/usr/sbin/nologin",
   "man:x:6:12:man:/var/cache/man:/usr/sbin/nologin",
   "lp:x:7:7:lp:/var/spool/lpd:/usr/sbin/nologin",
   "mail:x:8:8:mail:/var/mail:/usr/sbin/nologin",
   "news:x:9:9:news:/var/spool/news:/usr/sbin/nologin",
   "uucp:x:10:10:uucp:/var/spool/uucp:/usr/sbin/nologin",
   "proxy:x:13:13:proxy:/bin:/usr/sbin/nologin",
   "www-data:x:33:33:www-data:/var/www:/usr/sbin/nologin",
   "backup:x:34:34:backup:/var/backups:/usr/sbin/nologin",
   "list:x:38:38:Mailing List Manager:/var/list:/usr/sbin/nologin",
   "irc:x:39:39:ircd:/run/ircd:/usr/sbin/nologin",
   "_apt:x:42:65534::/nonexistent:/usr/sbin/nologin",
   "nobody:x:65534:65534:nobody:/nonexistent:/usr/sbin/nologin"]

/-- The users of a system and their directories. -/
def users : List (Bytes × Bytes) :=
  userLines.map fun line =>
    let fields := Bytes.divide ':' (Bytes.ofText line)
    (fields.headD [], (fields[5]?).getD [])

/-- The files of a system that can be read. -/
def systemFiles : List (String × List String) :=
  [("etc/passwd", userLines), ("etc/group", ["root:x:0:"]), ("etc/shells", ["/bin/sh", "/bin/dash", "/bin/bash"]),
   ("etc/hosts", ["127.0.0.1\tlocalhost"]), ("etc/fstab", []), ("etc/profile", []), ("etc/shadow", []),
   ("etc/hostname", ["localhost"]), ("etc/resolv.conf", []), ("etc/os-release", []), ("etc/nsswitch.conf", []),
   ("proc/sys/kernel/ostype", ["Linux"]), ("proc/version", []), ("proc/cpuinfo", []), ("proc/meminfo", []),
   ("proc/uptime", []), ("proc/loadavg", []), ("proc/stat", []), ("proc/filesystems", [])]

/-- What every system has below its root. -/
def systemEntries : List (Place × Entry) :=
  systemDirectories.map (fun path => (placeOf path, .directory)) ++
    systemLinks.map (fun (path, target) => (placeOf path, .link (placeOf target))) ++
    systemDevices.map (fun (path, device) => (placeOf path, .device device)) ++
    [(placeOf "usr/bin/dash", .shell)] ++
    systemFiles.map (fun (path, lines) =>
      (placeOf path, .file (Bytes.toArray (Bytes.ofText (String.join (lines.map (· ++ "\n"))))) false 0)) ++
    programNames.map fun name => (placeOf ("usr/bin/" ++ name), .program)

end SinglePath.Files
