namespace TokenSigner.Cryptoki

namespace ReturnCode

def ok : UInt64 := 0x000
def slotIdInvalid : UInt64 := 0x003
def attributeSensitive : UInt64 := 0x011
def attributeTypeInvalid : UInt64 := 0x012
def keyHandleInvalid : UInt64 := 0x060
def mechanismInvalid : UInt64 := 0x070
def objectHandleInvalid : UInt64 := 0x082
def operationActive : UInt64 := 0x090
def operationNotInitialized : UInt64 := 0x091
def pinIncorrect : UInt64 := 0x0a0
def sessionHandleInvalid : UInt64 := 0x0b3
def userAlreadyLoggedIn : UInt64 := 0x100
def userNotLoggedIn : UInt64 := 0x101
def bufferTooSmall : UInt64 := 0x150
def alreadyInitialized : UInt64 := 0x191

end ReturnCode

namespace Flag

def osLocking : UInt64 := 0x2
def readWriteSession : UInt64 := 0x2
def serialSession : UInt64 := 0x4

end Flag

namespace Attribute

def objectClass : UInt64 := 0x000
def label : UInt64 := 0x003
def keyType : UInt64 := 0x100
def id : UInt64 := 0x102
def modulus : UInt64 := 0x120
def publicExponent : UInt64 := 0x122
def prime : UInt64 := 0x130
def ecParameters : UInt64 := 0x180

end Attribute

namespace ObjectClass

def publicKey : UInt64 := 2
def privateKey : UInt64 := 3

end ObjectClass

namespace KeyType

def rsa : UInt64 := 0
def dsa : UInt64 := 1
def ec : UInt64 := 3

end KeyType

end TokenSigner.Cryptoki
