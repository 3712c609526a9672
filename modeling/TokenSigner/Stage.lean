import TokenSigner.Error

namespace TokenSigner

inductive Stage where
  | uninitialized
  | initialized
  | accumulating
  | finalized
  deriving DecidableEq, Repr

namespace Stage

def name : Stage → String
  | uninitialized => "uninitialized"
  | initialized => "initialized"
  | accumulating => "accumulating"
  | finalized => "finalized"

def checkUpdate : Stage → Except Error Unit
  | initialized | accumulating => .ok ()
  | uninitialized => .error .updateBeforeStart
  | finalized => .error .updateAfterEnd

def checkFinish : Stage → Except Error Unit
  | initialized | accumulating => .ok ()
  | uninitialized => .error .finishBeforeStart
  | finalized => .error .finishTwice

end Stage

end TokenSigner
