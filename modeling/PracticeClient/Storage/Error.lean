import PracticeClient.Files.FileSystem
import PracticeClient.Json.Error
import PracticeClient.Keychain

namespace PracticeClient

inductive StoreError where
  | file (error : FileError)
  | corrupt (fault : Json.Fault) (text : String)
  | keychain (error : KeychainError)
  deriving DecidableEq, Repr

def StoreError.message : StoreError → String
  | file error => s!"Storage I/O error: {error.message}"
  | corrupt fault text => s!"Corrupt storage file: {fault.message text}"
  | keychain error => s!"Keychain error: {error.message}"

end PracticeClient
