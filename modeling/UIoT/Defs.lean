/-!
# Return codes

The codes of `IoT_Error_t` that the modelled functions return or compare.
Functions of the SDK return an `int` that is either such a code or a count, so
the codes are integers here too.
-/

set_option autoImplicit false

namespace UIoT

abbrev mqttAlreadyConnected : Int := 4
abbrev mqttConnectionAccepted : Int := 3
abbrev mqttManuallyDisconnected : Int := 2
abbrev mqttReconnected : Int := 1
abbrev successRet : Int := 0
abbrev failureRet : Int := -1
abbrev errParamInvalid : Int := -2

abbrev errHttpClosed : Int := -3
abbrev errHttpUnresolvedDns : Int := -6
abbrev errHttpConnError : Int := -8
abbrev errHttpAuthError : Int := -9
abbrev errHttpNotFound : Int := -10
abbrev errHttpTimeout : Int := -11

abbrev errMqttPushToListFailed : Int := -102
abbrev errMqttNoConn : Int := -103
abbrev errMqttUnknownError : Int := -104
abbrev errMqttAttemptingReconnect : Int := -105
abbrev errMqttReconnectTimeout : Int := -106
abbrev errMqttMaxSubscriptionsReached : Int := -107
abbrev errMqttSubFailed : Int := -108
abbrev errMqttNothingToRead : Int := -109
abbrev errMqttPacketReadError : Int := -110
abbrev errMqttRequestTimeout : Int := -111
abbrev errMqttConnackUnknown : Int := -112
abbrev errMqttConnackUnacceptableProtocolVersion : Int := -113
abbrev errMqttConnackIdentifierRejected : Int := -114
abbrev errMqttConnackServerUnavailable : Int := -115
abbrev errMqttConnackBadUserdata : Int := -116
abbrev errMqttConnackNotAuthorized : Int := -117
abbrev errMqttRxMessagePacketTypeInvalid : Int := -118
abbrev errMqttBufferTooShort : Int := -119
abbrev errMqttQosNotSupport : Int := -120
abbrev errMqttUnsubFailed : Int := -121
abbrev errJsonBufferTruncated : Int := -133
abbrev errJsonBufferTooSmall : Int := -134
abbrev errJson : Int := -135
abbrev errMaxAppendingRequest : Int := -137
abbrev errMaxTopicLength : Int := -138
abbrev errShadowPropertyExist : Int := -201
abbrev errShadowNotPropertyExist : Int := -202

abbrev errOtaGeneralFailure : Int := -301
abbrev errOtaInvalidParam : Int := -302
abbrev errOtaInvalidState : Int := -303
abbrev errOtaStrTooLong : Int := -304
abbrev errOtaFetchFailed : Int := -305
abbrev errOtaFileNotExist : Int := -306
abbrev errOtaFetchAuthFail : Int := -307
abbrev errOtaFetchTimeout : Int := -308
abbrev errOtaNoMemory : Int := -309
abbrev errOtaOscFailed : Int := -310
abbrev errOtaMd5Mismatch : Int := -311

abbrev errTcpReadFailed : Int := -606
abbrev errTcpWriteFailed : Int := -607
abbrev errTcpPeerShutdown : Int := -608
abbrev errSslWriteFailed : Int := -706
abbrev errSslReadTimeout : Int := -707
abbrev errSslReadFailed : Int := -708

end UIoT
