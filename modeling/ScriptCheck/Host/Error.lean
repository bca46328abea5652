/-! What can go wrong with files, directories and programs. -/

namespace ScriptCheck

inductive IoError where
  | notFound
  | badFormat
  | permissionDenied
  | alreadyExists
  | notDirectory
  | isDirectory
  | noSpace
  | brokenPipe
  | nameTooLong
  | tooManyLinks
  | notText
  | nulInPath
  | nulInCommand
deriving DecidableEq, Repr

def IoError.message : IoError → String
  | notFound => "No such file or directory (os error 2)"
  | badFormat => "Exec format error (os error 8)"
  | permissionDenied => "Permission denied (os error 13)"
  | alreadyExists => "File exists (os error 17)"
  | notDirectory => "Not a directory (os error 20)"
  | isDirectory => "Is a directory (os error 21)"
  | noSpace => "No space left on device (os error 28)"
  | brokenPipe => "Broken pipe (os error 32)"
  | nameTooLong => "File name too long (os error 36)"
  | tooManyLinks => "Too many levels of symbolic links (os error 40)"
  | notText => "stream did not contain valid UTF-8"
  | nulInPath => "file name contained an unexpected NUL byte"
  | nulInCommand => "nul byte found in provided data"

end ScriptCheck
