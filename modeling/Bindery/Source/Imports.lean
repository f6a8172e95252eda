import Bindery.Source.Basic

/-!
# Collected imports

The imports of a module are a set: which names are wanted from which modules. They are kept in
order, so that equal sets are equal collections, and written with the standard library first, then
other packages, then modules of the package itself.
-/
namespace Bindery.Source

/-- The top-level modules of the standard library. -/
def standardModules : List String := (
  "__future__ _abc _aix_support _ast _asyncio _bisect _blake2 _bootsubprocess _bz2 _codecs " ++
  "_codecs_cn _codecs_hk _codecs_iso2022 _codecs_jp _codecs_kr _codecs_tw _collections " ++
  "_collections_abc _compat_pickle _compression _contextvars _crypt _csv _ctypes _curses " ++
  "_curses_panel _datetime _dbm _decimal _elementtree _frozen_importlib " ++
  "_frozen_importlib_external _functools _gdbm _hashlib _heapq _imp _io _json _locale " ++
  "_lsprof _lzma _markupbase _md5 _msi _multibytecodec _multiprocessing _opcode _operator " ++
  "_osx_support _overlapped _pickle _posixshmem _posixsubprocess _py_abc _pydecimal _pyio " ++
  "_queue _random _scproxy _sha1 _sha256 _sha3 _sha512 _signal _sitebuiltins _socket " ++
  "_sqlite3 _sre _ssl _stat _statistics _string _strptime _struct _symtable _thread " ++
  "_threading_local _tkinter _tokenize _tracemalloc _typing _uuid _warnings _weakref " ++
  "_weakrefset _winapi _zoneinfo abc aifc antigravity argparse array ast asynchat asyncio " ++
  "asyncore atexit audioop base64 bdb binascii bisect builtins bz2 cProfile calendar cgi " ++
  "cgitb chunk cmath cmd code codecs codeop collections colorsys compileall concurrent " ++
  "configparser contextlib contextvars copy copyreg crypt csv ctypes curses dataclasses " ++
  "datetime dbm decimal difflib dis distutils doctest email encodings ensurepip enum errno " ++
  "faulthandler fcntl filecmp fileinput fnmatch fractions ftplib functools gc genericpath " ++
  "getopt getpass gettext glob graphlib grp gzip hashlib heapq hmac html http idlelib " ++
  "imaplib imghdr imp importlib inspect io ipaddress itertools json keyword lib2to3 " ++
  "linecache locale logging lzma mailbox mailcap marshal math mimetypes mmap modulefinder " ++
  "msilib msvcrt multiprocessing netrc nis nntplib nt ntpath nturl2path numbers opcode " ++
  "operator optparse os ossaudiodev pathlib pdb pickle pickletools pipes pkgutil platform " ++
  "plistlib poplib posix posixpath pprint profile pstats pty pwd py_compile pyclbr pydoc " ++
  "pydoc_data pyexpat queue quopri random re readline reprlib resource rlcompleter runpy " ++
  "sched secrets select selectors shelve shlex shutil signal site smtpd smtplib sndhdr " ++
  "socket socketserver spwd sqlite3 sre_compile sre_constants sre_parse ssl stat statistics " ++
  "string stringprep struct subprocess sunau symtable sys sysconfig syslog tabnanny tarfile " ++
  "telnetlib tempfile termios textwrap this threading time timeit tkinter token tokenize " ++
  "tomllib trace traceback tracemalloc tty turtle turtledemo types typing unicodedata " ++
  "unittest urllib uu uuid venv warnings wave weakref webbrowser winreg winsound wsgiref " ++
  "xdrlib xml xmlrpc zipapp zipfile zipimport zlib zoneinfo").splitOn " "

/-- Where the imports of a module stand. -/
inductive ImportGroup where
  | standard
  | other
  | relative
  deriving DecidableEq, Repr

/-- The first part of a dotted name. -/
def topLevel (module : String) : String := String.ofList (module.toList.takeWhile (· ≠ '.'))

def importGroup (module : String) : ImportGroup :=
  if module.toList.head? = some '.' then .relative
  else if standardModules.contains (topLevel module) then .standard
  else .other

/-- Insert a name into an ascending list without repetition. -/
def insertName (name : String) : List String → List String
  | [] => [name]
  | first :: rest =>
    if name < first then name :: first :: rest
    else if name = first then first :: rest
    else first :: insertName name rest

/-- The wanted names by module, both ascending. -/
structure Imports where
  entries : List (String × List String) := []
  deriving DecidableEq, Repr, Inhabited

namespace Imports

def addTo (module : String) (names : List String) :
    List (String × List String) → List (String × List String)
  | [] => [(module, names.foldl (fun found name => insertName name found) [])]
  | (m, found) :: rest =>
    if module < m then (module, names.foldl (fun found name => insertName name found) []) :: (m, found) :: rest
    else if module = m then (m, names.foldl (fun found name => insertName name found) found) :: rest
    else (m, found) :: addTo module names rest

def add (imports : Imports) (module : String) (names : List String) : Imports :=
  ⟨addTo module names imports.entries⟩

def single (module : String) (names : List String) : Imports := add {} module names

def merge (first second : Imports) : Imports :=
  second.entries.foldl (fun imports entry => imports.add entry.1 entry.2) first

/-- The import of one module. Leading dots are counted and left out of its name. -/
def statement (entry : String × List String) : Stmt :=
  let module := entry.1.toList
  if module.head? = some '.' then
    let rest := module.dropWhile (· = '.')
    .importFrom (if rest.isEmpty then none else some (String.ofList rest))
      (module.length - rest.length) entry.2
  else .importFrom (some entry.1) 0 entry.2

def inGroup (imports : Imports) (group : ImportGroup) : List (String × List String) :=
  imports.entries.filter fun entry => importGroup entry.1 = group

/-- The import statements, in order. -/
def statements (imports : Imports) : List Stmt :=
  (imports.inGroup .standard ++ imports.inGroup .other ++ imports.inGroup .relative).map statement

end Imports

end Bindery.Source
