import DxCommonGo.TransportRuns

/-! Request bodies that fail while `retryTransport` buffers them. The bytes that were read are
thrown away and the request is sent once with what is left. -/

namespace DxCommonGo.UnreadableBodies
open GoStrings DxErrors Programs RetryTransport TransportRuns

variable {ω : Type}

section Attempt

variable {cfg : HttpConfig} {req : Request} {h : Handler Op Reply ω} {w : ω}

end Attempt

end DxCommonGo.UnreadableBodies
