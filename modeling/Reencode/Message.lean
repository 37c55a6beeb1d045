import Reencode.Entry.Id

/-!
# Messages

The wording of what users and logs are told, in one place. A part that is absent or empty leaves
its punctuation out.
-/
namespace Reencode.Message

/-- A file that is not there. -/
def fileNotFound (path : String) : String := "文件不存在: " ++ path

/-- A directory that is not there. -/
def directoryNotFound (path : String) : String := "目录不存在: " ++ path

/-- An entry that is not there. -/
def entryNotFound (id : EntryId) : String := "图片条目不存在: " ++ id.text

/-- An entry whose output is not finished. -/
def entryNotReady (id : EntryId) (name : String) : String :=
  "图片尚未完成重新压缩: " ++ (if name = "" then id.text else name ++ " (" ++ id.text ++ ")")

/-- An import under a name that is taken. -/
def duplicateName (name : String) : String := "已存在同名图片，忽略导入: " ++ name

/-- A result that came too late. -/
def staleResult (id : EntryId) (token current : Int) : String :=
  "丢弃过期结果: " ++ id.text ++ " (任务 #" ++ toString token ++ ", 当前 #" ++ toString current ++ ")"

/-- An operation that failed on a target, with the cause if one is known. -/
def operationFailed (operation target : String) (cause : Option String) : String :=
  operation ++ "失败: " ++ target ++
    match cause with
    | some text => " - " ++ text
    | none => ""

/-- A value that was refused, with the reason if there is one. -/
def validationError (field value reason : String) : String :=
  "参数验证失败 - " ++ field ++ ": " ++ value ++ (if reason = "" then "" else " (" ++ reason ++ ")")

/-- An error met while working on a target. -/
def formatError (operation target error : String) : String :=
  operation ++ "失败 [" ++ target ++ "]: " ++ error

end Reencode.Message
