/-! The messages that come with the library, in French. -/
namespace FormGuard

def messagesFrench : List (String × String) := [
  ("INVALID_ALPHA","Ne doit contenir que des lettres."),
  ("INVALID_ALPHA_SPACE","Ne doit contenir que des lettres et espaces."),
  ("INVALID_ALPHA_NUM","Ne doit contenir que des lettres et nombres."),
  ("INVALID_ALPHA_NUM_SPACE","Ne doit contenir que des lettres, nombres et espaces."),
  ("INVALID_ALPHA_DASH","Ne doit contenir que des lettres, nombres et tirets."),
  ("INVALID_ALPHA_DASH_SPACE","Ne doit contenir que des lettres, nombres, tirets et espaces."),
  ("INVALID_BETWEEN_CHAR","Le texte doit contenir entre :param et :param caractères."),
  ("INVALID_BETWEEN_NUM","Doit être une valeur numérique, entre :param et :param."),
  ("INVALID_CREDIT_CARD","Doit être un numéro de carte de crédit valide."),
  ("INVALID_DATE_EURO_LONG","Doit être une date valide au format (jj-mm-aaaa) OU (jj/mm/aaaa)."),
  ("INVALID_DATE_EURO_LONG_BETWEEN","Doit être une date valide au format (jj-mm-aaaa) OU (jj/mm/aaaa) entre :param et :param."),
  ("INVALID_DATE_EURO_LONG_MAX","Doit être une date valide au format (jj-mm-aaaa) OU (jj/mm/aaaa), égale ou antérieure à :param."),
  ("INVALID_DATE_EURO_LONG_MIN","Doit être une date valide au format (jj-mm-aaaa) OU (jj/mm/aaaa), égale ou postérieure à :param."),
  ("INVALID_DATE_EURO_SHORT","Doit être une date valide au format (jj-mm-aa) OU (jj/mm/aa)."),
  ("INVALID_DATE_EURO_SHORT_BETWEEN","Doit être une date valide au format (jj-mm-aa) OU (jj/mm/aa) entre :param et :param."),
  ("INVALID_DATE_EURO_SHORT_MAX","Doit être une date valide au format (jj-mm-aa) OU (jj/mm/aa), égale ou antérieure à :param."),
  ("INVALID_DATE_EURO_SHORT_MIN","Doit être une date valide au format (jj-mm-aa) OU (jj/mm/aa), égale ou postérieure à :param."),
  ("INVALID_DATE_ISO","Doit être une date valide au format (aaaa-mm-jj)."),
  ("INVALID_DATE_ISO_BETWEEN","Doit être une date valide au format (aaaa-mm-jj) entre :param et :param."),
  ("INVALID_DATE_ISO_MAX","Doit être une date valide au format (aaaa-mm-jj), égale ou antérieure à :param."),
  ("INVALID_DATE_ISO_MIN","Doit être une date valide au format (aaaa-mm-jj), égale ou postérieure à :param."),
  ("INVALID_DATE_US_LONG","Doit être une date valide au format (mm/jj/aaaa) OU (mm-jj-aaaa)."),
  ("INVALID_DATE_US_LONG_BETWEEN","Doit être une date valide au format (mm/jj/aaaa) OU (mm-jj-aaaa) entre :param et :param."),
  ("INVALID_DATE_US_LONG_MAX","Doit être une date valide au format (mm/jj/aaaa) OU (mm-jj-aaaa), égale ou antérieure à :param."),
  ("INVALID_DATE_US_LONG_MIN","Doit être une date valide au format (mm/jj/aaaa) OU (mm-jj-aaaa), égale ou postérieure à :param."),
  ("INVALID_DATE_US_SHORT","Doit être une date valide au format (mm/jj/aa) OU (mm-jj-aa)."),
  ("INVALID_DATE_US_SHORT_BETWEEN","Doit être une date valide au format (mm/jj/aa) OU (mm-jj-aa) entre :param et :param."),
  ("INVALID_DATE_US_SHORT_MAX","Doit être une date valide au format (mm/jj/aa) OU (mm-jj-aa), égale ou antérieure à :param."),
  ("INVALID_DATE_US_SHORT_MIN","Doit être une date valide au format (mm/jj/aa) OU (mm-jj-aa), égale ou postérieure à :param."),
  ("INVALID_EMAIL","Doit être une adresse courriel valide."),
  ("INVALID_EXACT_LEN","Doit contenir exactement :param caractères."),
  ("INVALID_FLOAT","Doit être un nombre flottant positif (nombre entier exclu)."),
  ("INVALID_FLOAT_SIGNED","Doit être un nombre flottant positif ou négatif (nombre entier exclu)."),
  ("INVALID_IBAN","Doit être un IBAN valide."),
  ("INVALID_INTEGER","Doit être un nombre entier positif."),
  ("INVALID_INTEGER_SIGNED","Doit être un nombre entier positif ou négatif."),
  ("INVALID_IPV4","Doit être une adresse IP valide (IPV4)."),
  ("INVALID_IPV6","Doit être une adresse IP valide (IPV6)."),
  ("INVALID_KEY_CHAR","Entrée clavier invalide sur un champ de type \"nombre\"."),
  ("INVALID_MATCH","Le champ de confirmation ne correspond pas au champ spécifié \":param\"."),
  ("INVALID_MAX_CHAR","Ne doit pas dépasser :param caractères."),
  ("INVALID_MAX_NUM","Doit être une valeur numérique, égale ou inférieure à :param."),
  ("INVALID_MIN_CHAR","Doit contenir au moins :param caractères."),
  ("INVALID_MIN_NUM","Doit être une valeur numérique, égale ou supérieure à :param."),
  ("INVALID_NUMERIC","Doit être un nombre positif."),
  ("INVALID_NUMERIC_SIGNED","Doit être un nombre positif ou négatif."),
  ("INVALID_PATTERN","Doit suivre le format : :param"),
  ("INVALID_REQUIRED","Champ requis."),
  ("INVALID_TIME","Doit être une heure valide au format (hh:mm) OU (hh:mm:ss)."),
  ("INVALID_URL","Doit être un URL valide.")]

end FormGuard
